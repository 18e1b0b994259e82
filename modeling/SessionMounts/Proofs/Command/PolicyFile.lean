import SessionMounts.Proofs.Command.Writing
import SessionMounts.Proofs.MountsFile.ReadBack
import SessionMounts.Proofs.Policy.Values
import SessionMounts.Proofs.Utf8.Validity

/-!
From a policy file to the mounts file. The command reads the policy file as a text whose carriage returns
count as line feeds, and so splits it differently from a policy value, where only a line feed ends a line.
A command that succeeds leaves the values of the text that it has read (`outcome_writeFrom_eq_ok`), and
these are the values of the text in the policy file exactly if none of the latter has a carriage return
inside (`policy_file_is_written`).
-/

namespace SessionMounts

theorem FileSystem.nodeAt?_dot (files : FileSystem) : files.nodeAt? ['.'] = some .directory := by
  have hhere := node?_of_prefix (List.prefix_refl files.workingDirectory)
  have hwalk : files.walk files.workingDirectory [['.']] = .ok files.workingDirectory := by
    rw [walk, hhere]
    rfl
  exact nodeAt?_eq_some_iff.mpr ⟨files.workingDirectory, hwalk, hhere⟩

/-- An empty name stands for the working directory, which is no file. -/
theorem Policy.name_ne_empty {files : FileSystem} {policyFile : String} {bytes : List UInt8}
    (h : files.read (Path.parse policyFile).text = .ok bytes) : policyFile ≠ "" := by
  rintro rfl
  have hdot : (Path.parse "").text.toList = ['.'] := by decide +kernel
  obtain ⟨location, hlocate, hnode⟩ := FileSystem.nodeAt?_eq_some_iff.mp files.nodeAt?_dot
  rw [FileSystem.read, hdot, if_neg (by decide)] at h
  simp only [hlocate, hnode] at h
  cases h

theorem Policy.read_of_text {files : FileSystem} {policyFile : String} {text : List Char}
    (h : files.read (Path.parse policyFile).text = .ok (Utf8.encode text)) :
    Policy.read files policyFile = .ok (values (Text.unifyNewlines text)) := by
  simp only [read, FileSystem.readText_of_text h]

theorem MountsFile.complete_eq_iff {values others : List String} {owner : Owner} :
    complete values owner = complete others owner ↔
      Policy.fileContent values = Policy.fileContent others := by
  simp only [complete, Node.file.injEq, File.mk.injEq, and_true]
  exact ⟨Utf8.encode_injective, congrArg Utf8.encode⟩

namespace Command

open Mounting (Backends)
open MountsFile (Interference)

variable {σ : Type} {world : World σ} {verbose : Bool} {interference : Interference}
  {suffix policyFile mountsFile : String} {ownership : Ownership} {text : List Char}
  {words : List String} {arguments : Arguments}

theorem outcome_writeValues_eq_ok_iff {values : List String} {owner : Owner} :
    (writeValues world verbose interference suffix values mountsFile owner).outcome = .returned .ok ↔
      (MountsFile.write verbose world.files interference suffix mountsFile values owner).result =
        .ok () := by
  unfold writeValues
  dsimp only
  cases (MountsFile.write verbose world.files interference suffix mountsFile values owner).result with
  | ok done => exact iff_of_true rfl rfl
  | error error =>
      refine iff_of_false ?_ (by rintro ⟨⟩)
      cases error <;> rintro ⟨⟩

/-- A command that writes succeeds in one way only: the policy file is read, there is an owner, and the
values are written. -/
theorem outcome_writeFrom_eq_ok
    (hok : (writeFrom world verbose interference suffix policyFile mountsFile ownership).outcome =
      .returned .ok) :
    ∃ values owner, Policy.read world.files policyFile = .ok values ∧
      ownership.owner? world.files.user = some owner ∧
      let written :=
        MountsFile.write verbose world.files interference suffix mountsFile values owner
      written.result = .ok () ∧
      (writeFrom world verbose interference suffix policyFile mountsFile ownership).files =
        written.files := by
  cases hread : Policy.read world.files policyFile with
  | error error =>
      simp only [writeFrom, hread] at hok
      cases hok
  | ok values =>
      cases howner : ownership.owner? world.files.user with
      | none =>
          simp only [writeFrom, hread, howner] at hok
          cases hok
      | some owner =>
          rw [writeFrom_of_read hread howner] at hok ⊢
          exact ⟨values, owner, rfl, rfl, outcome_writeValues_eq_ok_iff.mp hok, rfl⟩

/-- A command that succeeds in writing from a policy file puts the values of the text that it reads in the
mounts file, one per line: the text in the policy file, with every carriage return, alone or before a line
feed, turned into a line feed. The values of the text itself are in the mounts file exactly if none of
them has a carriage return inside. The file belongs to the owner of the command line, or to the current
user or group where the owner's number asks for no change. -/
theorem policy_file_is_written (backends : Backends σ) (world : World σ) (verbose : Bool)
    (interference : Interference) (suffix : String)
    (hparsed : Arguments.parse world.environment.parser words = .ok arguments)
    (hgiven : arguments.writeFrom = some policyFile)
    (hread : world.files.read (Path.parse policyFile).text = .ok (Utf8.encode text))
    (hok : (run backends world verbose interference suffix words).outcome = .returned .ok) :
    let finished := run backends world verbose interference suffix words
    let target := (Path.parse arguments.mountsFile).chars
    ∃ owner, arguments.owner.owner? world.files.user = some owner ∧
      finished.files.nodeAt? target =
        some (MountsFile.complete (Policy.values (Text.unifyNewlines text))
          (owner.replacing world.files.user)) ∧
      (finished.files.nodeAt? target =
          some (MountsFile.complete (Policy.values text) (owner.replacing world.files.user)) ↔
        ∀ value ∈ Policy.values text, '\r' ∉ value.toList) := by
  intro finished target
  have hwriting := policyFile?_eq_some_iff.mpr ⟨hgiven, Policy.name_ne_empty hread⟩
  have hrun : finished = _ := run_of_writing hparsed hwriting
  have hdone : finished.outcome = .returned .ok := hok
  rw [hrun] at hdone
  obtain ⟨values, owner, hvalues, howner, hwrite, hfiles⟩ := outcome_writeFrom_eq_ok hdone
  cases (Policy.read_of_text hread).symm.trans hvalues
  have hnode : finished.files.nodeAt? target =
      some (MountsFile.complete (Policy.values (Text.unifyNewlines text))
        (owner.replacing world.files.user)) := by
    rw [hrun, hfiles]
    exact (MountsFile.nodeAt?_of_write hwrite).2
  refine ⟨owner, howner, hnode, ?_⟩
  rw [hnode, Option.some_inj, MountsFile.complete_eq_iff, Policy.fileContent_unifyNewlines_eq_iff]

/-- Blanks and returns around a line are not part of the value in either reading. -/
theorem sample_policy_file_is_written :
    let finished := run ⟨none, Mounting.Scripted.provider⟩ sampleDesk false (fun _ => none) "x"
      ["-o", "0:7", "-w", "p", "m"]
    finished.outcome = .returned .ok ∧ Policy.values " c\r\n".toList = ["c"] ∧
      finished.files.nodeAt? ['m'] = some (MountsFile.complete ["c"] ⟨0, 7⟩) := by
  intro finished
  have hparsed : Arguments.parse .early ["-o", "0:7", "-w", "p", "m"] =
      .ok { writeFrom := some "p", owner := .given ⟨0, 7⟩, mountsFile := "m" } := by decide +kernel
  have hvalues : Policy.values " c\r\n".toList = ["c"] := by decide +kernel
  have hread : sampleDesk.files.read (Path.parse "p").text = .ok (Utf8.encode " c\r\n".toList) := by
    decide +kernel
  have hok : finished.outcome = .returned .ok := by decide +kernel
  obtain ⟨owner, howner, -, hsame⟩ := policy_file_is_written ⟨none, Mounting.Scripted.provider⟩
    sampleDesk false (fun _ => none) "x" hparsed rfl hread hok
  cases howner
  rw [hvalues] at hsame
  exact ⟨hok, hvalues, hsame.mpr (by decide)⟩

/-- A policy file with one value that has a carriage return inside. -/
def returnDesk : World Mounting.Scripted.State :=
  { sampleDesk with
    files := sampleDesk.files.put [['w'], ['p']]
      (.file { content := Utf8.encode "a\rb".toList, owner := ⟨0, 0⟩ }) }

/-- The command writes two values where the text in the policy file has one. -/
theorem return_inside_value_splits_it :
    let finished := run ⟨none, Mounting.Scripted.provider⟩ returnDesk false (fun _ => none) "x"
      ["-w", "p", "m"]
    returnDesk.files.read "p" = .ok (Utf8.encode "a\rb".toList) ∧
      Policy.values "a\rb".toList = ["a\rb"] ∧
      finished.outcome = .returned .ok ∧
      finished.files.nodeAt? ['m'] = some (MountsFile.complete ["a", "b"] ⟨1000, 1000⟩) ∧
      MountsFile.complete ["a", "b"] ⟨1000, 1000⟩ ≠ MountsFile.complete ["a\rb"] ⟨1000, 1000⟩ := by
  refine ⟨?_, ?_, ?_, ?_, ?_⟩ <;> decide +kernel

end Command

end SessionMounts
