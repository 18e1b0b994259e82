import SessionMounts.Proofs.Command.PolicyFile
import SessionMounts.Proofs.MountsFile.Quiet
import SessionMounts.Proofs.Policy.Distinct

/-!
Writing again from a file that was written. Such a file lists values of a text without carriage returns, so it
is read as it stands, and its values are those that it lists (`values_unifyNewlines_fileContent`). A command
that succeeds leaves a file that lists values, and says how many entries are read from it (`Wrote`); a second
one that takes this file for its policy file writes the same values (`written_file_is_fixed_point`).
-/

namespace SessionMounts

open Text (unifyNewlines)

theorem Policy.values_unifyNewlines_fileContent (text : List Char) :
    values (unifyNewlines (fileContent (values (unifyNewlines text)))) =
      values (unifyNewlines text) := by
  have hno : '\r' ∉ fileContent (values (unifyNewlines text)) := by
    rw [return_mem_fileContent_iff]
    rintro ⟨location, hmem, hreturn⟩
    exact return_notMem_of_mem_values hmem hreturn
  rw [unifyNewlines_of_not_mem hno, values_fileContent]

/-- What a policy file gives are the values of a text without carriage returns. -/
theorem Policy.exists_text_of_read {files : FileSystem} {policyFile : String} {listed : List String}
    (h : read files policyFile = .ok listed) :
    ∃ text, listed = values (unifyNewlines text) := by
  rw [read] at h
  split at h
  · cases h
  · cases h
    exact ⟨_, rfl⟩

namespace MountsFile

open Console (Log)

variable {files : FileSystem} {interference : Interference} {suffix target : String}
  {values : List String} {owner : Owner}

/-- Writing a mounts file is not reported by itself, except to a verbose run. -/
theorem quiet_log_write (verbose : Bool) (files : FileSystem) (interference : Interference)
    (suffix target : String) (values : List String) (owner : Owner) :
    Log.quiet (write verbose files interference suffix target values owner).log = [] := by
  unfold write
  dsimp only
  split
  · rfl
  · split
    · rfl
    · rfl
    · rfl
    · rw [log_replace, List.append_nil, Console.quiet_debug]

end MountsFile

namespace Command

open Mounting (Backends)
open MountsFile (Interference)

variable {σ : Type} {world : World σ} {verbose : Bool} {interference : Interference}
  {suffix policyFile mountsFile : String} {ownership : Ownership} {content : List UInt8}
  {words : List String} {arguments : Arguments}

/-- A command has written these values. It returns, the mounts file holds them, one per line, and a reader
finds as many entries in it as the command reports, which is all that it says to a quiet run. -/
structure Wrote (finished : Finished σ) (mountsFile : String) (values : List String) : Prop where
  returned : finished.outcome = .returned .ok
  holds : finished.files.read (Path.parse mountsFile).text = .ok (MountsFile.bytesOf values)
  listed : ∀ loud, ∃ entries,
    (MountsFile.read loud finished.files (Path.parse mountsFile).text).1 = .ok entries ∧
      entries.length = values.length
  reported : finished.output.quiet =
    .front [Console.ok ("Wrote " ++ toString values.length ++ " entries to " ++ mountsFile)]

/-- A write of the values of a text that succeeds is reported by their number. -/
theorem wrote_writeValues {text : List Char} {owner : Owner}
    (hok : (MountsFile.write verbose world.files interference suffix mountsFile (Policy.values text)
      owner).result = .ok ()) :
    Wrote (writeValues world verbose interference suffix (Policy.values text) mountsFile owner)
      mountsFile (Policy.values text) where
  returned := outcome_writeValues_eq_ok_iff.mpr hok
  holds := MountsFile.read_text_of_write hok
  listed := by
    intro loud
    refine ⟨_, MountsFile.read_of_text loud (MountsFile.read_text_of_write hok), ?_⟩
    rw [Entry.parse_of_lists (MountsFile.lists_fileContent text), List.length_map]
  reported := by
    have hquiet := MountsFile.quiet_log_write verbose world.files interference suffix mountsFile
      (Policy.values text) owner
    unfold writeValues
    dsimp only
    rw [hok]
    simp [Console.Output.quiet, Console.Output.front, hquiet]
    rfl

/-- A command that has read its policy file returns exactly if the write succeeds. -/
theorem outcome_writeFrom_eq_ok_iff {values : List String}
    (hread : Policy.read world.files policyFile = .ok values) :
    (writeFrom world verbose interference suffix policyFile mountsFile ownership).outcome =
        .returned .ok ↔
      ∃ owner, ownership.owner? world.files.user = some owner ∧
        (MountsFile.write verbose world.files interference suffix mountsFile values owner).result =
          .ok () := by
  constructor
  · intro hok
    obtain ⟨others, owner, hothers, howner, hwrite, -⟩ := outcome_writeFrom_eq_ok hok
    cases hread.symm.trans hothers
    exact ⟨owner, howner, hwrite⟩
  · rintro ⟨owner, howner, hwrite⟩
    rw [writeFrom_of_read hread howner, outcome_writeValues_eq_ok_iff]
    exact hwrite

/-- A command that returns has written the values of its policy file. -/
theorem wrote_writeFrom {values : List String}
    (hread : Policy.read world.files policyFile = .ok values)
    (hok : (writeFrom world verbose interference suffix policyFile mountsFile ownership).outcome =
      .returned .ok) :
    Wrote (writeFrom world verbose interference suffix policyFile mountsFile ownership) mountsFile
      values := by
  obtain ⟨owner, howner, hwrite⟩ := (outcome_writeFrom_eq_ok_iff hread).mp hok
  obtain ⟨text, rfl⟩ := Policy.exists_text_of_read hread
  rw [writeFrom_of_read hread howner]
  exact wrote_writeValues hwrite

/-- The file that was written gives the values that it lists when it is read as a policy file. -/
theorem Wrote.read {finished : Finished σ} {later : World σ} {values : List String} {file : String}
    (h : Wrote finished mountsFile values)
    (hvalues : Policy.read world.files policyFile = .ok values)
    (hsame : Path.parse file = Path.parse mountsFile)
    (hkept : later.files.read (Path.parse file).text = finished.files.read (Path.parse file).text) :
    Policy.read later.files file = .ok values := by
  obtain ⟨text, rfl⟩ := Policy.exists_text_of_read hvalues
  have hread := h.holds
  rw [← hsame, ← hkept] at hread
  rw [Policy.read_of_text hread, Policy.values_unifyNewlines_fileContent]

/-- The file that a command writes from a policy file is a fixed point of writing. A command that reads a
policy file and succeeds writes the values in it, and reports how many entries are then read from the mounts
file. Whenever a command takes that mounts file for its policy file, with nothing else in between than
what leaves the file as it is, and whatever its target is, the same file or another one, it succeeds
exactly if the write of the same values succeeds; and if it does, it writes these values, which are the
same bytes, and reports their number again. -/
theorem written_file_is_fixed_point (backends : Backends σ) (world : World σ) (verbose : Bool)
    (interference : Interference) (suffix : String)
    (hparsed : Arguments.parse world.environment.parser words = .ok arguments)
    (hgiven : arguments.writeFrom = some policyFile)
    (hread : world.files.read (Path.parse policyFile).text = .ok content)
    (hok : (run backends world verbose interference suffix words).outcome = .returned .ok) :
    let first := run backends world verbose interference suffix words
    ∃ values, Policy.read world.files policyFile = .ok values ∧
      Wrote first arguments.mountsFile values ∧
      ∀ (others : Backends σ) (later : World σ) (loud : Bool) (obstacles : Interference)
        (ending : String) (more : List String) (again : Arguments) (file : String),
        Arguments.parse later.environment.parser more = .ok again → again.writeFrom = some file →
        Path.parse file = Path.parse arguments.mountsFile →
        later.files.read (Path.parse file).text = first.files.read (Path.parse file).text →
        let second := run others later loud obstacles ending more
        (second.outcome = .returned .ok ↔
          ∃ owner, again.owner.owner? later.files.user = some owner ∧
            (MountsFile.write (loud || again.verbose) later.files obstacles ending again.mountsFile
              values owner).result = .ok ()) ∧
        (second.outcome = .returned .ok → Wrote second again.mountsFile values) := by
  intro first
  have hrun : first = _ :=
    run_of_writing hparsed (policyFile?_eq_some_iff.mpr ⟨hgiven, Policy.name_ne_empty hread⟩)
  have hdone : first.outcome = .returned .ok := hok
  rw [hrun] at hdone
  obtain ⟨values, owner, hvalues, -, -, -⟩ := outcome_writeFrom_eq_ok hdone
  have hwrote : Wrote first arguments.mountsFile values := by
    rw [hrun]
    exact wrote_writeFrom hvalues hdone
  refine ⟨values, hvalues, hwrote, ?_⟩
  intro others later loud obstacles ending more again file hagain hfile hsame hkept second
  have hlisted := hwrote.read hvalues hsame hkept
  have hbytes : later.files.read (Path.parse file).text = .ok (MountsFile.bytesOf values) := by
    rw [hkept, hsame]
    exact hwrote.holds
  have hsecond : second = _ :=
    run_of_writing hagain (policyFile?_eq_some_iff.mpr ⟨hfile, Policy.name_ne_empty hbytes⟩)
  rw [hsecond]
  exact ⟨outcome_writeFrom_eq_ok_iff hlisted, wrote_writeFrom hlisted⟩

/-- A policy file with a mark at its beginning, all kinds of line ends, and a repetition. -/
def mixedDesk : World Mounting.Scripted.State :=
  { sampleDesk with
    files := sampleDesk.files.put [['w'], ['p']] (.file
      { content := Utf8.encode "\ufeffa\rb\r\n\u00a0b\t\n\x1c\n[anonymous]c\u2028".toList
        owner := ⟨0, 0⟩ }) }

/-- Three values are written, and again over the file in which they stand, for another owner. -/
theorem mixed_values_are_written_again :
    let values := ["\ufeffa", "b", "[anonymous]c"]
    let first := run ⟨none, Mounting.Scripted.provider⟩ mixedDesk false (fun _ => none) "x"
      ["-w", "p", "m"]
    let second := run ⟨none, Mounting.Scripted.provider⟩ { mixedDesk with files := first.files } true
      (fun _ => none) "y" ["m", "-o", "0:7", "-w", ".//m"]
    Wrote first "m" values ∧ Wrote second "m" values := by
  intro values first second
  have hparsed : Arguments.parse .early ["-w", "p", "m"] =
      .ok { writeFrom := some "p", mountsFile := "m" } := by decide +kernel
  have hagain : Arguments.parse .early ["m", "-o", "0:7", "-w", ".//m"] =
      .ok { writeFrom := some ".//m", owner := .given ⟨0, 7⟩, mountsFile := "m" } := by
    decide +kernel
  have hvalues : Policy.read mixedDesk.files "p" = .ok values := by decide +kernel
  have hread : mixedDesk.files.read (Path.parse "p").text =
      .ok (Utf8.encode "\ufeffa\rb\r\n\u00a0b\t\n\x1c\n[anonymous]c\u2028".toList) := by
    decide +kernel
  have hok : first.outcome = .returned .ok := by decide +kernel
  obtain ⟨others, hothers, hfirst, hsecond⟩ := written_file_is_fixed_point
    ⟨none, Mounting.Scripted.provider⟩ mixedDesk false (fun _ => none) "x" hparsed rfl hread hok
  cases hvalues.symm.trans hothers
  have hlater := hsecond ⟨none, Mounting.Scripted.provider⟩ { mixedDesk with files := first.files }
    true (fun _ => none) "y" ["m", "-o", "0:7", "-w", ".//m"] _ ".//m" hagain rfl
    (by decide +kernel) rfl
  exact ⟨hfirst, hlater.2 (by decide +kernel)⟩

end Command

end SessionMounts
