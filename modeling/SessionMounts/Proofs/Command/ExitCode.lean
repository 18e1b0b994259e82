import SessionMounts.Command.Run
import SessionMounts.Mounting.Scripted
import SessionMounts.Proofs.MountsFile.Handling

/-!
The exit code of a command that mounts. The command ends at one of the gates that a mounts file has to
pass, or mounts what the file lists; `Course` says what can be seen of it in each case. The law
of the exit code (`exit_code_of_mounting`) reads the code and the acts of the provider off the course.
-/

namespace SessionMounts.Command

section Codes

open Mounting
open MountsFile (Interference Problem)

variable {σ : Type} {backends : Backends σ} {world : World σ} {verbose : Bool}
  {interference : Interference} {suffix : String} {words : List String} {arguments : Arguments}

/-- The exit code, if the command ends with one. -/
def Outcome.code? : Outcome → Option Int
  | .returned code => some code.number
  | .exited code => some code
  | _ => none

/-- The exit code for what came of a mounts file. -/
def codeOf? : Except Problem Unit → Option Int
  | .ok () => some 0
  | .error problem => (outcomeOf problem).1.code?

/-- A command line without a policy file is about mounting. -/
theorem run_of_mounting (hparsed : Arguments.parse world.environment.parser words = .ok arguments)
    (hmounting : arguments.policyFile? = none) :
    run backends world verbose interference suffix words =
      mount backends world (verbose || arguments.verbose) arguments.provider
        arguments.mountsFile := by
  simp only [run, hparsed, runWith, hmounting]

/-- A command that mounts shows what came of its mounts file. -/
theorem mount_eq (backends : Backends σ) (world : World σ) (verbose : Bool) (given : Option Backend)
    (path : String) :
    let finished := mount backends world verbose given path
    let handled := MountsFile.mountSelecting backends (given.map Backend.name) world.environment
      verbose world.files path world.state
    finished.outcome.code? = codeOf? handled.result ∧ finished.acts = handled.acts ∧
      finished.state = handled.state := by
  intro finished handled
  refine ⟨?_, rfl, rfl⟩
  simp only [finished, mount]
  change _ = codeOf? (MountsFile.mountSelecting backends (given.map Backend.name)
    world.environment verbose world.files path world.state).result
  cases (MountsFile.mountSelecting backends (given.map Backend.name) world.environment verbose
    world.files path world.state).result <;> rfl

/-- How the ending of a mounting shows in the exit code. -/
theorem codeOf?_conclude (path : String) (ending : Ending) :
    codeOf? (MountsFile.conclude path ending).1 =
      match ending with
      | .mounted => some 0
      | .failed _ => some 4
      | .refused _ => none
      | .waiting => none := by
  cases ending <;> rfl

/-- A failure that is more than that the location was mounted before. -/
def FailsIn (entries : List Entry) (status : Nat → Status) : Prop :=
  ∃ number < entries.length, ∃ failure, status number = .failed failure ∧
    failure.kind ≠ "already-mounted"

theorem not_onlyMountedBefore_iff {entries : List Entry} {status : Nat → Status} :
    ¬OnlyMountedBefore entries status ↔ FailsIn entries status := by
  simp only [OnlyMountedBefore, FailsIn, Failure.alreadyMounted, not_forall, exists_prop]

theorem codeOf?_of_serves {provider : Provider σ} {ticket : Bool} {state : σ}
    {entries : List Entry} {status : Nat → Status} {order : List Nat} (path : String)
    (hne : entries ≠ []) (h : provider.Serves ticket verbose state entries status order) :
    FailsIn entries status ∧ codeOf? (MountsFile.conclude path
        (provider.mount ticket verbose state entries).ending).1 = some 4 ∨
      ¬FailsIn entries status ∧ codeOf? (MountsFile.conclude path
        (provider.mount ticket verbose state entries).ending).1 = some 0 := by
  by_cases honly : OnlyMountedBefore entries status
  · refine .inr ⟨fun hfails => not_onlyMountedBefore_iff.mpr hfails honly, ?_⟩
    rw [codeOf?_conclude, (h.ending_eq_mounted_iff hne).mpr honly]
  · refine .inl ⟨not_onlyMountedBefore_iff.mp honly, ?_⟩
    rw [codeOf?_conclude, h.ending_eq_failed hne honly]

/-- No provider was built and nothing was dispatched. -/
def Finished.Idle (finished : Finished σ) (state : σ) : Prop :=
  finished.acts = [] ∧ finished.state = state

/-- What a command that mounts can come to, by the gate that ends it. -/
inductive Course (backends : Backends σ) (world : World σ) (verbose : Bool) (given : Option Backend)
    (path : String) (finished : Finished σ) : Prop where
  | unreadable (hread : world.files.Unreadable path) (hcode : finished.outcome.code? = some 3)
      (hidle : finished.Idle world.state)
  | nothing {text : List Char} (hread : world.files.read path = .ok (Utf8.encode text))
      (hnothing : Entry.parse text = []) (hcode : finished.outcome.code? = some 0)
      (hidle : finished.Idle world.state)
  | missing {text : List Char} (hread : world.files.read path = .ok (Utf8.encode text))
      (hentries : Entry.parse text ≠ [])
      (hmissing : backends.Missing (requestedName given world.environment))
      (hcode : finished.outcome.code? = some 1) (hidle : finished.Idle world.state)
  | mounted {text : List Char} {provider : Provider σ}
      (hread : world.files.read path = .ok (Utf8.encode text)) (hentries : Entry.parse text ≠ [])
      (hnamed : backends.Named (requestedName given world.environment) provider)
      (once : Mounted σ) (honce : once = MountsFile.mountOnce provider world.environment.ticket
        verbose world.state (Entry.parse text))
      (hcode : finished.outcome.code? = codeOf? (MountsFile.conclude path once.ending).1)
      (hacts : finished.acts = once.acts) (hstate : finished.state = once.state)

theorem course_mount (backends : Backends σ) (world : World σ) (verbose : Bool)
    (given : Option Backend) {path : String} (hpath : '\x00' ∉ path.toList) :
    Course backends world verbose given path (mount backends world verbose given path) := by
  obtain ⟨hcode, hacts, hstate⟩ := mount_eq backends world verbose given path
  rcases world.files.unreadable_or_text path with hunreadable | ⟨text, htext⟩
  · obtain ⟨reason, hread⟩ := MountsFile.read_of_unreadable verbose hpath hunreadable
    obtain ⟨hresult, hnone, hsame⟩ := MountsFile.handle_of_error hread
    rw [MountsFile.mountSelecting, hresult] at hcode
    exact .unreadable hunreadable hcode ⟨hacts.trans hnone, hstate.trans hsame⟩
  · have hread := MountsFile.read_of_text verbose htext
    by_cases hne : Entry.parse text = []
    · rw [hne] at hread
      obtain ⟨hresult, hnone, hsame⟩ := MountsFile.handle_of_nothing hread
      rw [MountsFile.mountSelecting, hresult] at hcode
      exact .nothing htext hne hcode ⟨hacts.trans hnone, hstate.trans hsame⟩
    · rcases backends.missing_or_named (requestedName given world.environment) with
        hmissing | ⟨provider, hnamed⟩
      · obtain ⟨reason, hresult, hnone, hsame⟩ :=
          MountsFile.mountSelecting_of_missing hread hne hmissing
        rw [hresult] at hcode
        exact .missing htext hne hmissing hcode ⟨hacts.trans hnone, hstate.trans hsame⟩
      · obtain ⟨hresult, hmade, hleft⟩ := MountsFile.mountSelecting_of_named hread hne hnamed
        rw [hresult] at hcode
        exact .mounted htext hne hnamed _ rfl hcode (hacts.trans hmade) (hstate.trans hleft)

namespace Course

variable {given : Option Backend} {path : String} {text : List Char} {finished : Finished σ}

/-- A text that can be read is the one that the command deals with. -/
theorem text_unique {other : List Char} (h : world.files.read path = .ok (Utf8.encode text))
    (hother : world.files.read path = .ok (Utf8.encode other)) : other = text :=
  Utf8.encode_injective (Except.ok.inj (hother.symm.trans h))

theorem code?_of_mounted {once : Mounted σ}
    (hcode : finished.outcome.code? = codeOf? (MountsFile.conclude path once.ending).1) :
    finished.outcome.code? ≠ some 1 ∧ finished.outcome.code? ≠ some 3 := by
  rw [hcode, codeOf?_conclude]
  cases once.ending <;> simp

theorem code?_eq_three_iff (h : Course backends world verbose given path finished) :
    (finished.outcome.code? = some 3 ↔ world.files.Unreadable path) ∧
      (world.files.Unreadable path → finished.Idle world.state) := by
  cases h with
  | unreadable hread hcode hidle => exact ⟨iff_of_true hcode hread, fun _ => hidle⟩
  | nothing hread hnothing hcode hidle =>
      rw [hcode]
      exact ⟨iff_of_false (by decide) (FileSystem.not_unreadable hread), fun _ => hidle⟩
  | missing hread hentries hmissing hcode hidle =>
      rw [hcode]
      exact ⟨iff_of_false (by decide) (FileSystem.not_unreadable hread), fun _ => hidle⟩
  | mounted hread hentries hnamed once honce hcode =>
      have hno := FileSystem.not_unreadable hread
      exact ⟨iff_of_false (code?_of_mounted hcode).2 hno, fun hunreadable => absurd hunreadable hno⟩

theorem of_nothing (h : Course backends world verbose given path finished)
    (htext : world.files.read path = .ok (Utf8.encode text)) (hnone : Entry.parse text = []) :
    finished.outcome.code? = some 0 ∧ finished.Idle world.state := by
  cases h with
  | unreadable hread => exact absurd hread (FileSystem.not_unreadable htext)
  | nothing hread hnothing hcode hidle => exact ⟨hcode, hidle⟩
  | missing hread hentries =>
      cases text_unique htext hread
      exact absurd hnone hentries
  | mounted hread hentries =>
      cases text_unique htext hread
      exact absurd hnone hentries

theorem code?_eq_one_iff (h : Course backends world verbose given path finished)
    (htext : world.files.read path = .ok (Utf8.encode text)) (hne : Entry.parse text ≠ []) :
    (finished.outcome.code? = some 1 ↔
        backends.Missing (requestedName given world.environment)) ∧
      (backends.Missing (requestedName given world.environment) → finished.Idle world.state) := by
  cases h with
  | unreadable hread => exact absurd hread (FileSystem.not_unreadable htext)
  | nothing hread hnothing =>
      cases text_unique htext hread
      exact absurd hnothing hne
  | missing hread hentries hmissing hcode hidle => exact ⟨iff_of_true hcode hmissing, fun _ => hidle⟩
  | mounted hread hentries hnamed once honce hcode =>
      have hno := Backends.not_missing hnamed
      exact ⟨iff_of_false (code?_of_mounted hcode).1 hno, fun hmissing => absurd hmissing hno⟩

theorem of_named {provider : Provider σ} (h : Course backends world verbose given path finished)
    (htext : world.files.read path = .ok (Utf8.encode text)) (hne : Entry.parse text ≠ [])
    (hfound : backends.Named (requestedName given world.environment) provider) :
    let once := MountsFile.mountOnce provider world.environment.ticket verbose world.state
      (Entry.parse text)
    finished.outcome.code? = codeOf? (MountsFile.conclude path once.ending).1 ∧
      finished.acts = once.acts ∧ finished.state = once.state := by
  cases h with
  | unreadable hread => exact absurd hread (FileSystem.not_unreadable htext)
  | nothing hread hnothing =>
      cases text_unique htext hread
      exact absurd hnothing hne
  | missing hread hentries hmissing => exact absurd hmissing (Backends.not_missing hfound)
  | mounted hread hentries hnamed once honce hcode hacts hstate =>
      cases text_unique htext hread
      cases Backends.named_unique hnamed hfound
      cases honce
      exact ⟨hcode, hacts, hstate⟩

end Course

/-- The exit code of a command that mounts, for every command line that names no policy file and a
mounts file without a NUL character. It is 3 exactly if that file gives no text; otherwise 0 if the
text lists nothing; otherwise 1 exactly if the requested provider is none, or its library is
missing; and up to here no provider is built and nothing is dispatched. Otherwise, if the provider
serves every entry, the code is 4 exactly if some operation fails and its location was not mounted
before, else 0; one provider is built, all entries are dispatched, the completions are taken, and then
the provider is closed, once, whatever the code is. -/
theorem exit_code_of_mounting (backends : Backends σ) (world : World σ) (verbose : Bool)
    (interference : Interference) (suffix : String)
    (hparsed : Arguments.parse world.environment.parser words = .ok arguments) (hmounting : arguments.policyFile? = none)
    (hpath : '\x00' ∉ arguments.mountsFile.toList) :
    let finished := run backends world verbose interference suffix words
    let code := finished.outcome.code?
    let name := requestedName arguments.provider world.environment
    (code = some 3 ↔ world.files.Unreadable arguments.mountsFile) ∧
    (world.files.Unreadable arguments.mountsFile → finished.Idle world.state) ∧
    ∀ text, world.files.read arguments.mountsFile = .ok (Utf8.encode text) →
      let entries := Entry.parse text
      (entries = [] → code = some 0 ∧ finished.Idle world.state) ∧
      (entries ≠ [] →
        (code = some 1 ↔ (name ≠ "gio" ∧ name ≠ "cli") ∨ (name = "gio" ∧ backends.gio = none)) ∧
        (code = some 1 → finished.Idle world.state) ∧
        ∀ provider, backends.Named name provider → ∀ (status : Nat → Status) (order : List Nat),
          provider.Serves world.environment.ticket (verbose || arguments.verbose)
            (provider.build world.state) entries status order →
          (code = some 4 ↔ ∃ number < entries.length, ∃ failure,
            status number = .failed failure ∧ failure.kind ≠ "already-mounted") ∧
          (code = some 4 ∨ code = some 0) ∧
          finished.acts = .built :: (entries.map (fun entry => .dispatched (Request.fresh entry)) ++
            (order.filterMap fun number => Run.announced? entries (number, status number)).map
              .consumed) ++ [.closed] ∧
          finished.state = provider.close (provider.mount world.environment.ticket
            (verbose || arguments.verbose) (provider.build world.state) entries).state) := by
  intro finished code name
  have hcourse : Course backends world (verbose || arguments.verbose) arguments.provider
      arguments.mountsFile finished := by
    rw [show finished = _ from run_of_mounting hparsed hmounting]
    exact course_mount backends world _ arguments.provider hpath
  obtain ⟨hthree, hunread⟩ := hcourse.code?_eq_three_iff
  refine ⟨hthree, hunread, ?_⟩
  intro text htext entries
  refine ⟨hcourse.of_nothing htext, fun hne => ?_⟩
  obtain ⟨hone, hmissing⟩ := hcourse.code?_eq_one_iff htext hne
  refine ⟨hone, fun hcode => hmissing (hone.mp hcode), ?_⟩
  intro provider hnamed status order hserves
  obtain ⟨hcode, hacts, hstate⟩ := hcourse.of_named htext hne hnamed
  obtain ⟨hending, hmade, hclosed⟩ := MountsFile.mountOnce_of_serves hne hserves
  rw [hending] at hcode
  have hobserved := And.intro (hacts.trans hmade) (hstate.trans hclosed)
  rcases codeOf?_of_serves arguments.mountsFile hne hserves with ⟨hfails, hfour⟩ | ⟨hnone, hzero⟩
  · have hended : code = some 4 := hcode.trans hfour
    exact ⟨iff_of_true hended hfails, .inl hended, hobserved⟩
  · have hended : code = some 0 := hcode.trans hzero
    exact ⟨iff_of_false (by rw [hended]; decide) hnone, .inr hended, hobserved⟩

/-- A mounts file that lists two locations, the second of which cannot be mounted, and an environment
that prefers the mounting tool. -/
def sampleWorld : World Scripted.State where
  files :=
    { workingDirectory := [['w']]
      user := ⟨1000, 1000⟩
      nodes := [([['w'], ['m']], .file
        { content := Utf8.encode "a\r\n\n[anonymous]b".toList, owner := ⟨0, 0⟩ })] }
  environment := { provider := some "cli" }
  state := { plans := [.serve [] .done, .serve [{}] (.failed ⟨"not-found", "no such share"⟩)],
             release := some ⟨2, [1, 0]⟩ }

/-- Without the library only the mounting tool can be had; the second location fails first, and the
command says so. -/
theorem sample_command_fails :
    let finished := run ⟨none, Scripted.provider⟩ sampleWorld false (fun _ => none) "x" ["-v", "m"]
    finished.outcome.code? = some 4 ∧
      finished.acts = [.built, .dispatched (Request.fresh ⟨"a", false⟩),
        .dispatched (Request.fresh ⟨"b", true⟩),
        .consumed ⟨"b", .failed ⟨"not-found", "no such share"⟩⟩, .consumed ⟨"a", .done⟩,
        .closed] := by
  have hparsed : Arguments.parse .early ["-v", "m"] =
      .ok { verbose := true, mountsFile := "m" } := by decide +kernel
  have htext : sampleWorld.files.read "m" = .ok (Utf8.encode "a\r\n\n[anonymous]b".toList) := by
    decide +kernel
  have hentries : Entry.parse "a\r\n\n[anonymous]b".toList = [⟨"a", false⟩, ⟨"b", true⟩] := by
    decide +kernel
  let statuses : List Status := [.done, .failed ⟨"not-found", "no such share"⟩]
  have hserves : Scripted.provider.Serves false true sampleWorld.state
      [⟨"a", false⟩, ⟨"b", true⟩] (fun number => statuses[number]?.getD .done) [1, 0] :=
    ⟨by decide +kernel, by decide +kernel, by decide⟩
  obtain ⟨-, -, hread⟩ := exit_code_of_mounting ⟨none, Scripted.provider⟩ sampleWorld false
    (fun _ => none) "x" hparsed rfl (by decide +kernel)
  have hmounted := (hread _ htext).2
  rw [hentries] at hmounted
  obtain ⟨-, -, hserved⟩ := hmounted (by decide)
  obtain ⟨hfour, -, hacts, -⟩ := hserved Scripted.provider (.inr ⟨rfl, rfl⟩) _ _ hserves
  refine ⟨hfour.mpr ⟨1, by decide, _, rfl, by decide⟩, hacts⟩

end Codes

/-! ### Files that give no text

The report that a file is unreadable is the only problem that a command takes for an unreadable file, and
reading ends without it if there is a NUL in the path, which then shows as a problem with the
configuration (`unreadable_file_is_reported_unless_nul_in_path`). -/

section Unreadable

open Mounting (Backend Backends Mounted Unavailable)
open MountsFile (Interference)

variable {σ : Type} {path : String}

/-- The exit code of a command that is to mount what an unreadable file lists. -/
theorem mount_of_unreadable (backends : Backends σ) (world : World σ) (verbose : Bool)
    (given : Option Backend) (h : world.files.Unreadable path) :
    let finished := mount backends world verbose given path
    finished.Idle world.state ∧
      finished.outcome.code? = some (if '\x00' ∈ path.toList then 1 else 3) := by
  intro finished
  obtain ⟨hcode, hacts, hstate⟩ := mount_eq backends world verbose given path
  obtain ⟨⟨hnone, hsame⟩, hreported, hnulled⟩ := MountsFile.mountSelecting_of_unreadable backends
    (given.map Backend.name) world.environment verbose world.state h
  refine ⟨⟨hacts.trans hnone, hstate.trans hsame⟩, ?_⟩
  rw [hcode]
  by_cases hnul : '\x00' ∈ path.toList
  · rw [hnulled.mpr hnul, if_pos hnul]
    rfl
  · obtain ⟨reason, hreason⟩ := hreported.mpr hnul
    rw [hreason, if_neg hnul]
    rfl

/-- A mounts file that gives no text is reported to be unreadable unless its path has a NUL character.
Reading gives the entries of the text in the file, if there is one, and otherwise the report, or, exactly
for a path with a NUL, an error of another kind. Whoever is to mount what an unreadable file lists is not
asked, and no provider is built. The command returns 3 for such a file, but 1 if there is a NUL in its
path. -/
theorem unreadable_file_is_reported_unless_nul_in_path (backends : Backends σ) (world : World σ)
    (path : String) :
    let files := world.files
    (∀ verbose,
      let outcome := (MountsFile.read verbose files path).1
      (∀ entries, outcome = .ok entries ↔
        ∃ text, files.read path = .ok (Utf8.encode text) ∧ entries = Entry.parse text) ∧
      ((∃ entries, outcome = .ok entries) ∨
          (∃ reason, outcome = .error (.unreadable path reason)) ↔ '\x00' ∉ path.toList) ∧
      (outcome = .error .nulInPath ↔ '\x00' ∈ path.toList)) ∧
    (files.Unreadable path →
      (∀ (verbose : Bool) (mount : List Entry → Except Unavailable (Mounted σ)),
        let handled := MountsFile.handle verbose files path world.state mount
        handled.Idle world.state ∧
          ((∃ reason, handled.result = .error (.file (.unreadable path reason))) ↔
            '\x00' ∉ path.toList)) ∧
      ∀ (words : List String) (arguments : Arguments),
        Arguments.parse world.environment.parser words = .ok arguments →
        arguments.policyFile? = none → arguments.mountsFile = path →
        ∀ (verbose : Bool) (interference : Interference) (suffix : String),
          let finished := run backends world verbose interference suffix words
          finished.Idle world.state ∧
            (finished.outcome.code? = some 3 ↔ '\x00' ∉ path.toList) ∧
            (finished.outcome.code? = some 1 ↔ '\x00' ∈ path.toList)) := by
  intro files
  refine ⟨?_, fun hunreadable => ⟨?_, ?_⟩⟩
  · intro verbose
    have hreading := MountsFile.reading verbose files path
    exact ⟨hreading.eq_ok_iff, hreading.proper_iff, hreading.eq_error_nul_iff⟩
  · intro verbose mount
    obtain ⟨hidle, hreported, -⟩ :=
      MountsFile.handle_of_unreadable verbose world.state mount hunreadable
    exact ⟨hidle, hreported⟩
  · rintro words arguments hparsed hmounting rfl verbose interference suffix finished
    obtain ⟨hidle, hcode⟩ := mount_of_unreadable backends world (verbose || arguments.verbose)
      arguments.provider hunreadable
    rw [show finished = _ from run_of_mounting hparsed hmounting]
    refine ⟨hidle, ?_⟩
    rw [hcode]
    by_cases hnul : '\x00' ∈ arguments.mountsFile.toList
    · simp [hnul]
    · simp [hnul]

/-- A mounts file whose second byte is no text. -/
def garbledWorld : World Mounting.Scripted.State where
  files := sampleWorld.files.put [['w'], ['g']]
    (.file { content := [0x73, 0xff], owner := ⟨0, 0⟩ })
  environment := sampleWorld.environment
  state := sampleWorld.state

theorem garbled_file_is_reported :
    let finished := run ⟨none, Mounting.Scripted.provider⟩ garbledWorld false (fun _ => none) "x" ["g"]
    garbledWorld.files.Unreadable "g" ∧ finished.Idle garbledWorld.state ∧
      finished.outcome.code? = some 3 := by
  intro finished
  have hread : garbledWorld.files.read "g" = .ok [0x73, 0xff] := by decide +kernel
  have hfault : Utf8.decode [0x73, 0xff] = .error ⟨1, [0xff], .invalidStart⟩ := by decide +kernel
  have hunreadable : garbledWorld.files.Unreadable "g" := by
    refine .inr ⟨_, hread, fun text htext => ?_⟩
    rw [← Utf8.decode_eq_ok_iff, hfault] at htext
    cases htext
  have hparsed : Arguments.parse .early ["g"] = .ok { mountsFile := "g" } := by decide +kernel
  obtain ⟨hidle, hthree, -⟩ := (unreadable_file_is_reported_unless_nul_in_path
    ⟨none, Mounting.Scripted.provider⟩ garbledWorld "g").2 hunreadable |>.2 _ _ hparsed rfl rfl false
      (fun _ => none) "x"
  exact ⟨hunreadable, hidle, hthree.mpr (by decide)⟩

/-- A path with a NUL character is not said to be unreadable, and the command takes it for a problem with
the configuration. -/
theorem nul_in_path_passes_for_configuration :
    let outcome := (MountsFile.read false sampleWorld.files "m\x00").1
    let finished := run ⟨none, Mounting.Scripted.provider⟩ sampleWorld false (fun _ => none) "x"
      ["m\x00"]
    sampleWorld.files.read "m\x00" = .error .nulInPath ∧ outcome = .error .nulInPath ∧
      (¬∃ reason, outcome = .error (.unreadable "m\x00" reason)) ∧
      finished.outcome.code? = some 1 := by
  intro outcome finished
  have houtcome : outcome = .error .nulInPath := by decide +kernel
  refine ⟨by decide +kernel, houtcome, ?_, by decide +kernel⟩
  rintro ⟨reason, hreason⟩
  cases houtcome.symm.trans hreason

end Unreadable

end SessionMounts.Command
