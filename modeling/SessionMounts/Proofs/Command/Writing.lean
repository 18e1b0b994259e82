import SessionMounts.Proofs.Command.Arguments
import SessionMounts.Proofs.Command.ExitCode
import SessionMounts.Proofs.MountsFile.WriteOnly

/-!
A command that writes. It deals with the policy file and with the place of the mounts file, and with no
provider: what it shows does not depend on the providers, on the environment, or on what any other file
holds, the mounts file among them (`agree_writeFrom`). It returns unless there is nobody to own the file or
the owner cannot be represented (`code?_writeFrom_iff`). Only an empty name of a policy file counts as none,
and then the command mounts (`writing_never_mounts`).
-/

namespace SessionMounts.Command

open FileSystem (ChangedAlike SamePlaces)
open Mounting (Backends Request)
open MountsFile (Filled Interference)

variable {σ : Type} {backends : Backends σ} {world elsewhere : World σ} {verbose : Bool}
  {interference : Interference} {suffix policyFile mountsFile : String} {ownership : Ownership}
  {words : List String} {arguments : Arguments}

theorem policyFile?_eq_some_iff :
    arguments.policyFile? = some policyFile ↔
      arguments.writeFrom = some policyFile ∧ policyFile ≠ "" := by
  rw [Arguments.policyFile?, Option.filter_eq_some_iff]
  simp

/-- A command line with a policy file is about writing. -/
theorem run_of_writing (hparsed : Arguments.parse world.environment.parser words = .ok arguments)
    (hwriting : arguments.policyFile? = some policyFile) :
    run backends world verbose interference suffix words =
      writeFrom world (verbose || arguments.verbose) interference suffix policyFile
        arguments.mountsFile arguments.owner := by
  simp only [run, hparsed, runWith, hwriting]

/-- Once the policy file has been read, the command writes its values for the owner, if there is one. -/
theorem writeFrom_of_read {values : List String} {owner : Owner}
    (hread : Policy.read world.files policyFile = .ok values)
    (howner : ownership.owner? world.files.user = some owner) :
    writeFrom world verbose interference suffix policyFile mountsFile ownership =
      writeValues world verbose interference suffix values mountsFile owner := by
  simp only [writeFrom, hread, howner]

theorem writeFrom_idle :
    (writeFrom world verbose interference suffix policyFile mountsFile ownership).Idle world.state := by
  unfold writeFrom
  split
  · exact ⟨rfl, rfl⟩
  · split
    · exact ⟨rfl, rfl⟩
    · exact ⟨rfl, rfl⟩

section Codes

/-- How the result of writing shows in the exit code. -/
theorem code?_writeValues (values : List String) (owner : Owner) :
    (writeValues world verbose interference suffix values mountsFile owner).outcome.code? =
      match (MountsFile.write verbose world.files interference suffix mountsFile values owner).result
      with
      | .ok () => some 0
      | .error (.outOfRange _) => none
      | .error _ => some 5 := by
  rw [writeValues]
  dsimp only
  cases (MountsFile.write verbose world.files interference suffix mountsFile values owner).result with
  | ok done => rfl
  | error error => cases error <;> rfl

/-- What keeps a command that writes from returning: once the policy file has been read, there is nobody
to own the mounts file; or, once the temporary file has been filled, its owner has a number that the
system cannot represent. -/
inductive Stopped (world : World σ) (interference : Interference) (suffix policyFile mountsFile : String)
    (ownership : Ownership) : Prop where
  | nobody {values : List String} (hread : Policy.read world.files policyFile = .ok values)
      (hnobody : ownership = .nobody)
  | unrepresentable {values : List String} {owner : Owner}
      (hread : Policy.read world.files policyFile = .ok values)
      (howner : ownership.owner? world.files.user = some owner)
      (hgreat : 0x100000000 ≤ owner.user ∨ 0x100000000 ≤ owner.group)
      (hfilled : Filled world.files interference suffix (Path.parse mountsFile) owner)

theorem stopped_iff {values : List String} {owner : Owner} (verbose : Bool)
    (hread : Policy.read world.files policyFile = .ok values)
    (howner : ownership.owner? world.files.user = some owner) :
    Stopped world interference suffix policyFile mountsFile ownership ↔
      ∃ range, (MountsFile.write verbose world.files interference suffix mountsFile values
        owner).result = .error (.outOfRange range) := by
  constructor
  · intro h
    cases h with
    | nobody _ hnobody =>
        rw [hnobody] at howner
        cases howner
    | unrepresentable _ hother hgreat hfilled =>
        cases howner.symm.trans hother
        have hrange : MountsFile.outOfRange? owner ≠ none := by
          rw [Ne, MountsFile.outOfRange?_eq_none_iff]
          omega
        obtain ⟨range, hrange⟩ := Option.ne_none_iff_exists'.mp hrange
        exact ⟨range, MountsFile.write_eq_outOfRange_iff.mpr ⟨hfilled, hrange⟩⟩
  · rintro ⟨range, hresult⟩
    obtain ⟨hfilled, hrange⟩ := MountsFile.write_eq_outOfRange_iff.mp hresult
    refine .unrepresentable hread howner ?_ hfilled
    have hgreat : ¬MountsFile.outOfRange? owner = none := by
      rw [hrange]
      exact Option.some_ne_none range
    rw [MountsFile.outOfRange?_eq_none_iff] at hgreat
    omega

/-- A command that writes returns 0 or 5 unless something stops it. -/
theorem code?_writeFrom_iff :
    let code :=
      (writeFrom world verbose interference suffix policyFile mountsFile ownership).outcome.code?
    code = some 0 ∨ code = some 5 ↔
      ¬Stopped world interference suffix policyFile mountsFile ownership := by
  intro code
  cases hread : Policy.read world.files policyFile with
  | error error =>
      have hcode : code = some 5 := by
        simp only [code, writeFrom, hread]
        rfl
      refine iff_of_true (.inr hcode) fun h => ?_
      cases h with
      | nobody hother _ => cases hread.symm.trans hother
      | unrepresentable hother _ _ _ => cases hread.symm.trans hother
  | ok values =>
      cases howner : ownership.owner? world.files.user with
      | none =>
          have hcode : code = none := by
            simp only [code, writeFrom, hread, howner]
            rfl
          have hnobody : ownership = .nobody := by
            cases ownership with
            | nobody => rfl
            | currentUser => cases howner
            | given owner => cases howner
          refine iff_of_false ?_ (not_not_intro (.nobody hread hnobody))
          rw [hcode]
          rintro (h | h) <;> cases h
      | some owner =>
          have hcode : code = (writeValues world verbose interference suffix values mountsFile
              owner).outcome.code? := by
            simp only [code]
            rw [writeFrom_of_read hread howner]
          rw [hcode, code?_writeValues, stopped_iff verbose hread howner]
          cases (MountsFile.write verbose world.files interference suffix mountsFile values
            owner).result with
          | ok done => simp
          | error error => cases error <;> simp

end Codes

/-- Two commands that end alike, show the same and change the files alike. -/
structure Agree (files otherFiles : FileSystem) (finished other : Finished σ) : Prop where
  outcome : other.outcome = finished.outcome
  output : other.output = finished.output
  owners : other.owners = finished.owners
  acts : other.acts = finished.acts
  files : ChangedAlike files otherFiles finished.files other.files

/-- Of what is around it a command that writes reads the policy file, and for the rest sees only where
there are files and directories. -/
theorem agree_writeFrom (h : SamePlaces world.files elsewhere.files)
    (hread : Policy.read elsewhere.files policyFile = Policy.read world.files policyFile) :
    Agree world.files elsewhere.files
      (writeFrom world verbose interference suffix policyFile mountsFile ownership)
      (writeFrom elsewhere verbose interference suffix policyFile mountsFile ownership) := by
  unfold writeFrom
  rw [hread, h.user]
  split
  · exact ⟨rfl, rfl, rfl, rfl, .unchanged h⟩
  · split
    · exact ⟨rfl, rfl, rfl, rfl, .unchanged h⟩
    · rename_i values _ _ owner _
      have hwrite := MountsFile.agree_write h verbose interference suffix mountsFile values owner
      unfold writeValues
      dsimp only
      rw [hwrite.result, hwrite.log]
      exact ⟨rfl, rfl, hwrite.owners, rfl, hwrite.files⟩

/-- A command line that gives a name for the policy file, two dashes among the names, writes and never
mounts. No provider is built and nothing is dispatched; the command returns 0 or 5 unless it is stopped,
which takes an owner that has a number that the system cannot represent, or, with the early edition of the
parser alone, one that is nobody; and all that it shows and changes is the same whatever the providers, the
variables of the environment and the contents of the files are, the policy file apart, so that the mounts
file is not read. An empty name, however, is taken for none, and so is one that the early edition has taken
away; then the command mounts. -/
theorem writing_never_mounts (backends : Backends σ) (world : World σ) (verbose : Bool)
    (interference : Interference) (suffix : String) {policyFile : String}
    (hparsed : Arguments.parse world.environment.parser words = .ok arguments)
    (hgiven : arguments.writeFrom = some policyFile) :
    let finished := run backends world verbose interference suffix words
    (policyFile ≠ "" →
      finished.Idle world.state ∧
      (finished.outcome.code? = some 0 ∨ finished.outcome.code? = some 5 ↔
        ¬Stopped world interference suffix policyFile arguments.mountsFile arguments.owner) ∧
      (world.environment.parser = .late → arguments.owner ≠ .nobody) ∧
      ∀ (others : Backends σ) (elsewhere : World σ),
        elsewhere.environment.parser = world.environment.parser →
        SamePlaces world.files elsewhere.files →
        Policy.read elsewhere.files policyFile = Policy.read world.files policyFile →
        Agree world.files elsewhere.files finished
          (run others elsewhere verbose interference suffix words)) ∧
    (policyFile = "" → finished = mount backends world (verbose || arguments.verbose)
      arguments.provider arguments.mountsFile) := by
  intro finished
  constructor
  · intro hnamed
    have hwriting := policyFile?_eq_some_iff.mpr ⟨hgiven, hnamed⟩
    have hfinished : finished = writeFrom world (verbose || arguments.verbose) interference suffix
        policyFile arguments.mountsFile arguments.owner := run_of_writing hparsed hwriting
    rw [hfinished]
    refine ⟨writeFrom_idle, code?_writeFrom_iff, ?_, ?_⟩
    · intro hlate
      rw [hlate] at hparsed
      exact owner_ne_nobody_of_late hparsed
    · intro others elsewhere hparser hplaces hread
      rw [← hparser] at hparsed
      rw [run_of_writing hparsed hwriting]
      exact agree_writeFrom hplaces hread
  · intro hempty
    apply run_of_mounting hparsed
    rw [Arguments.policyFile?, hgiven, hempty]
    rfl

/-- A mounts file that lists two locations, and a policy file. -/
def sampleDesk : World Mounting.Scripted.State where
  files :=
    { workingDirectory := [['w']]
      user := ⟨1000, 1000⟩
      nodes := [([['w'], ['m']], .file { content := Utf8.encode "a\nb\n".toList, owner := ⟨0, 0⟩ }),
        ([['w'], ['p']], .file { content := Utf8.encode " c\r\n".toList, owner := ⟨0, 0⟩ })] }
  environment := {}
  state := { plans := [.serve [] .done, .serve [] (.failed ⟨"not-found", "no such share"⟩)] }

/-- The same, but for a mounts file that is no text, and an environment that asks for a provider. -/
def garbledDesk : World Mounting.Scripted.State :=
  { sampleDesk with
    files := sampleDesk.files.put [['w'], ['m']] (.file { content := [0xFF], owner := ⟨5, 5⟩ })
    environment := { provider := some "cli", ticketCache := some "" } }

/-- The policy file is written over a mounts file that nobody could have read, in the same way as over
one that lists locations. -/
theorem sample_is_written_unread :
    let finished := run ⟨none, Mounting.Scripted.provider⟩ sampleDesk false (fun _ => none) "x"
      ["-w", "p", "m"]
    finished.Idle sampleDesk.state ∧ finished.outcome.code? = some 0 ∧
      ¬Stopped sampleDesk (fun _ => none) "x" "p" "m" .currentUser ∧
      Agree sampleDesk.files garbledDesk.files finished
        (run ⟨some Mounting.Scripted.provider, Mounting.Scripted.provider⟩ garbledDesk false
          (fun _ => none) "x" ["-w", "p", "m"]) := by
  intro finished
  have hparsed : Arguments.parse .early ["-w", "p", "m"] =
      .ok { writeFrom := some "p", mountsFile := "m" } := by decide +kernel
  have hstands : sampleDesk.files.node? [['w'], ['m']] =
      some (.file { content := Utf8.encode "a\nb\n".toList, owner := ⟨0, 0⟩ }) := by decide +kernel
  have hzero : finished.outcome.code? = some 0 := by decide +kernel
  obtain ⟨hidle, hcode, -, hagree⟩ := (writing_never_mounts ⟨none, Mounting.Scripted.provider⟩
    sampleDesk false (fun _ => none) "x" hparsed rfl).1 (by decide)
  exact ⟨hidle, hzero, hcode.mp (.inl hzero),
    hagree _ garbledDesk rfl (FileSystem.samePlaces_put_file hstands _) (by decide +kernel)⟩

/-- With an empty name of a policy file both locations of the mounts file are dispatched. -/
theorem empty_name_of_policy_file_mounts :
    let finished := run ⟨none, Mounting.Scripted.provider⟩ sampleDesk false (fun _ => none) "x"
      ["-w", "", "-p", "cli", "m"]
    (∃ arguments, Arguments.parse .early ["-w", "", "-p", "cli", "m"] = .ok arguments ∧
      arguments.writeFrom = some "") ∧
    .built ∈ finished.acts ∧
    .dispatched (Request.fresh ⟨"a", false⟩) ∈ finished.acts ∧
    .dispatched (Request.fresh ⟨"b", false⟩) ∈ finished.acts ∧
    finished.outcome.code? = some 4 := by
  refine ⟨⟨_, rfl, rfl⟩, ?_, ?_, ?_, ?_⟩ <;> decide +kernel

end SessionMounts.Command
