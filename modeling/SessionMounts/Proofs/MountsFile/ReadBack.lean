import Mathlib.Data.List.Forall2
import SessionMounts.Proofs.MountsFile.AllOrNothing
import SessionMounts.Proofs.MountsFile.Format
import SessionMounts.Proofs.MountsFile.Handling
import SessionMounts.Proofs.Policy.Values

/-!
What is read after writing. A write that succeeds leaves the complete file at the path of the target, by
whatever name the temporary file went (`nodeAt?_of_write`). The values of a policy entry are lines that
the reader takes as they are: none is empty, has a line feed or ends with a carriage return. So the
content lists one entry per value (`lists_fileContent`), and these are the entries that are read back
(`written_values_are_read_back`).
-/

namespace SessionMounts

namespace FileSystem

variable {files : FileSystem} {location : Location}

/-- A file that a path leads to, unless reading it fails, can be read. -/
theorem read_of_nodeAt? {path : String} {file : File} (hnul : '\x00' ∉ path.toList)
    (hnode : files.nodeAt? path.toList = some (.file file)) (hfault : file.fault = none) :
    files.read path = .ok file.content := by
  obtain ⟨location, hlocate, hfile⟩ := nodeAt?_eq_some_iff.mp hnode
  have hno : ¬path.toList.contains '\x00' = true := by simpa using hnul
  simp only [read, if_neg hno, hlocate, hfile, hfault]

/-- A file that takes the place of another one, while a third one is erased, is what the path of that
place leads to. The path is looked up when the third one is still there, and its directory stays. -/
theorem nodeAt?_of_renamed {text : List Char} {temporary target : Location} {file : File}
    (hnul : '\x00' ∉ text) (hdirectory : files.isDirectory text = .ok false)
    (hplace : (files.put temporary (.file file)).place text = .ok target) :
    ((files.erase temporary).put target (.file file)).nodeAt? text = some (.file file) := by
  obtain ⟨front, last, hsteps⟩ := exists_steps text
  have hbefore := (Within.of_put files temporary file).place hplace
  have hafter := (Within.put_erase files temporary file).place hplace
  obtain ⟨hplain, hno⟩ := plain_of_isDirectory hnul hsteps hdirectory hbefore
  have hstill : (files.erase temporary).node? target ≠ some .directory :=
    fun hnode => hno ((Within.of_erase files temporary).directory hnode)
  have hlocate := locate_put hsteps hplain hafter hstill file
  refine nodeAt?_eq_some_iff.mpr ⟨target, hlocate, ?_⟩
  rw [node?_put (not_prefix_of_node? hstill), if_pos rfl]

end FileSystem

namespace MountsFile

variable {files : FileSystem} {interference : Interference} {suffix target : String}
  {values : List String} {owner : Owner}

theorem nodeAt?_of_write {verbose : Bool}
    (hok : (write verbose files interference suffix target values owner).result = .ok ()) :
    let path := Path.parse target
    '\x00' ∉ path.chars ∧
      (write verbose files interference suffix target values owner).files.nodeAt? path.chars =
        some (complete values (owner.replacing files.user)) := by
  intro path
  cases course_write verbose files interference suffix target values owner with
  | refused hresult hfiles hstages =>
      obtain ⟨error, herror⟩ := hresult
      cases hok.symm.trans herror
  | begun hdirectory htemporary hsettled =>
      cases hsettled with
      | undone hresult hfiles hstages =>
          obtain ⟨error, herror⟩ := hresult
          cases hok.symm.trans herror
      | done hresult hnul hplace hfiles hstages =>
          refine ⟨hnul, ?_⟩
          rw [hfiles]
          exact FileSystem.nodeAt?_of_renamed hnul hdirectory hplace

/-- Under the target's path in normal form the reader finds the content that was written. -/
theorem read_text_of_write {verbose : Bool}
    (hok : (write verbose files interference suffix target values owner).result = .ok ()) :
    (write verbose files interference suffix target values owner).files.read
        (Path.parse target).text = .ok (bytesOf values) := by
  have hchars : (Path.parse target).text.toList = (Path.parse target).chars :=
    String.toList_ofList
  obtain ⟨hnul, hnode⟩ := nodeAt?_of_write hok
  rw [← hchars] at hnul hnode
  exact FileSystem.read_of_nodeAt? hnul hnode rfl

theorem read_of_write {verbose : Bool} (hnormal : (Path.parse target).text = target)
    (hok : (write verbose files interference suffix target values owner).result = .ok ()) :
    (write verbose files interference suffix target values owner).files.read target =
      .ok (Utf8.encode (Policy.fileContent values)) := by
  have hread := read_text_of_write hok
  rwa [hnormal] at hread

/-- The entry that a value stands for: with a tag in front it is anonymous and mounts the rest. -/
inductive Denotes : String → Entry → Prop where
  | anonymous (rest : String) : Denotes ("[anonymous]" ++ rest) ⟨rest, true⟩
  | credentialed {value : String} (huntagged : ¬"[anonymous]".toList <+: value.toList) :
      Denotes value ⟨value, false⟩

theorem denotes_ofLine (value : String) : Denotes value (Entry.ofLine value.toList) := by
  unfold Entry.ofLine
  split
  · rename_i htagged
    obtain ⟨rest, hrest⟩ := List.isPrefixOf_iff_prefix.mp htagged
    have hvalue : value = "[anonymous]" ++ String.ofList rest := by
      apply String.toList_injective
      calc
        value.toList = Entry.tag ++ rest := hrest.symm
        _ = Entry.tag ++ (String.ofList rest).toList := by rw [String.toList_ofList]
        _ = ("[anonymous]" ++ String.ofList rest).toList := String.toList_append.symm
    rw [← hrest, List.drop_left, hvalue]
    exact .anonymous _
  · rename_i huntagged
    rw [List.isPrefixOf_iff_prefix] at huntagged
    rw [String.ofList_toList]
    exact .credentialed huntagged

/-- The file of a policy entry lists one entry per value. -/
theorem lists_fileContent (value : List Char) :
    Entry.Lists ((Policy.values value).map fun location => Entry.ofLine location.toList)
      (Policy.fileContent (Policy.values value)) := by
  have hkept : ∀ location ∈ Policy.values value, Policy.Kept location.toList :=
    fun location hmem => Policy.kept_of_mem (Policy.mem_values_iff.mp hmem)
  have hcontent : Policy.fileContent (Policy.values value) =
      ((Policy.values value).map fun location => Entry.ofLine location.toList).flatMap
        fun entry => entry.toLine ++ Entry.LineEnd.feed.chars := by
    simp only [List.flatMap_map, Entry.toLine_ofLine]
    rfl
  rw [hcontent]
  apply Entry.lists_flatMap
  · intro entry hentry
    obtain ⟨location, hmem, rfl⟩ := List.mem_map.mp hentry
    exact Entry.writable_ofLine (hkept location hmem).nonempty (hkept location hmem).single
  · intro _ entry hentry
    obtain ⟨location, hmem, rfl⟩ := List.mem_map.mp hentry
    rw [Entry.toLine_ofLine, ← (hkept location hmem).trimmed]
    intro hlast
    exact absurd (Text.isBlank_of_getLast?_trim hlast) (by decide)

/-- Whatever text the values come from, a write of them that succeeds can be read again, and gives exactly
one entry per value, in the same order: the entry that the value stands for. No two of them are equal. -/
theorem written_values_are_read_back (verbose loud : Bool) (files : FileSystem)
    (interference : Interference) (suffix : String) (value : List Char) (owner : Owner)
    (hnormal : (Path.parse target).text = target)
    (hok : (write verbose files interference suffix target (Policy.values value) owner).result =
      .ok ()) :
    ∃ entries,
      (read loud (write verbose files interference suffix target (Policy.values value) owner).files
        target).1 = .ok entries ∧
      List.Forall₂ Denotes (Policy.values value) entries ∧ entries.Nodup := by
  refine ⟨_, read_of_text loud (read_of_write hnormal hok), ?_, ?_⟩
  · rw [Entry.parse_of_lists (lists_fileContent value), List.forall₂_map_right_iff,
      List.forall₂_same]
    exact fun location _ => denotes_ofLine location
  · rw [Entry.parse_of_lists (lists_fileContent value)]
    apply List.Nodup.map _ (Policy.nodup_values value)
    intro location other h
    have hlines := congrArg Entry.toLine h
    simp only [Entry.toLine_ofLine] at hlines
    exact String.toList_injective hlines

/-- Returns, other line ends and controls within a value stay, and a value that comes twice is written
once. -/
theorem sample_value_is_read_back :
    let value := " [anonymous]a\rb\r\n\u2028x\u000cy\x00\n\u00a0\nx\u000cy\x00\t\n\ufeffz".toList
    let written := write false sampleFiles (fun _ => none) "k3_" "d/m" (Policy.values value) ⟨0, 7⟩
    Policy.values value = ["[anonymous]a\rb", "x\u000cy\x00", "\ufeffz"] ∧
      written.result = .ok () ∧
      ∃ entries, (read false written.files "d/m").1 = .ok entries ∧
        List.Forall₂ Denotes (Policy.values value) entries ∧ entries.Nodup := by
  intro value written
  have hok : written.result = .ok () := by decide +kernel
  refine ⟨by decide +kernel, hok, ?_⟩
  exact written_values_are_read_back false false sampleFiles (fun _ => none) "k3_" value ⟨0, 7⟩
    (by decide +kernel) hok

end MountsFile

end SessionMounts
