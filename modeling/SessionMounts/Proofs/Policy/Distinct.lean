import Mathlib.Data.List.Induction
import SessionMounts.Proofs.Policy.Values

/-!
The values of a policy entry as first occurrences. Dropping repetitions reads a list from the front and keeps
what has not come before (`eraseDups_concat`), so it keeps the order in which things come first
(`pairwise_idxOf_eraseDups`), does not mind what is filtered out before or after (`eraseDups_filter`), and
leaves a list without repetitions as it is. The values therefore stand in the order of their first
lines, and a mounts file that lists them has the same values again (`values_fileContent`).
-/

namespace SessionMounts.Policy

section FirstOccurrences

variable {α : Type} [BEq α] [LawfulBEq α]

/-- One more element is kept if it has not come before. -/
theorem eraseDups_concat (items : List α) (a : α) :
    (items ++ [a]).eraseDups =
      if items.contains a then items.eraseDups else items.eraseDups ++ [a] := by
  rw [List.eraseDups_append, List.removeAll, List.filter_singleton, List.elem_eq_contains]
  cases items.contains a with
  | true => exact List.append_nil _
  | false => rfl

theorem eraseDups_filter (p : α → Bool) (items : List α) :
    (items.filter p).eraseDups = items.eraseDups.filter p := by
  induction items using List.reverseRecOn with
  | nil => rfl
  | append_singleton items a ih =>
      rw [List.filter_append, List.filter_singleton, eraseDups_concat]
      cases hp : p a with
      | false =>
          rw [cond_false, List.append_nil, ih]
          split
          · rfl
          · rw [List.filter_append, List.filter_singleton, hp, cond_false, List.append_nil]
      | true =>
          have hsame : (items.filter p).contains a = items.contains a := by
            rw [Bool.eq_iff_iff, List.contains_iff_mem, List.contains_iff_mem, List.mem_filter]
            exact and_iff_left hp
          rw [cond_true, eraseDups_concat, hsame, ih]
          split
          · rfl
          · rw [List.filter_append, List.filter_singleton, hp, cond_true]

theorem eraseDups_of_nodup {items : List α} (h : items.Nodup) : items.eraseDups = items := by
  induction items using List.reverseRecOn with
  | nil => rfl
  | append_singleton items a ih =>
      obtain ⟨hitems, -, hnew⟩ := List.nodup_append.mp h
      have hno : ¬items.contains a = true := by
        rw [List.contains_iff_mem]
        exact fun hmem => hnew a hmem a (List.mem_singleton_self a) rfl
      rw [eraseDups_concat, if_neg hno, ih hitems]

/-- What is kept stands in the order in which it comes first. -/
theorem pairwise_idxOf_eraseDups (items : List α) :
    items.eraseDups.Pairwise fun a b => items.idxOf a < items.idxOf b := by
  induction items using List.reverseRecOn with
  | nil => exact .nil
  | append_singleton items a ih =>
      have hbefore : ∀ {b}, b ∈ items.eraseDups → (items ++ [a]).idxOf b = items.idxOf b :=
        fun hb => List.idxOf_append_of_mem (List.mem_eraseDups.mp hb)
      have hkept : items.eraseDups.Pairwise fun b c =>
          (items ++ [a]).idxOf b < (items ++ [a]).idxOf c := by
        refine ih.imp_of_mem fun hb hc hlt => ?_
        rwa [hbefore hb, hbefore hc]
      rw [eraseDups_concat]
      split
      · exact hkept
      · rename_i hnew
        rw [List.contains_iff_mem] at hnew
        refine List.pairwise_append.mpr ⟨hkept, List.pairwise_singleton _ a, ?_⟩
        intro b hb last hlast
        obtain rfl := List.mem_singleton.mp hlast
        rw [hbefore hb, List.idxOf_append_of_notMem hnew]
        exact (List.idxOf_lt_length_iff.mpr (List.mem_eraseDups.mp hb)).trans_le
          (Nat.le_add_right _ _)

end FirstOccurrences

variable {text : List Char} {locations : List String}

/-- The number of the first line that is a location when it is trimmed. -/
def firstLine (text : List Char) (location : String) : Nat :=
  (Text.splitOn '\n' text).findIdx fun line => Text.trim line == location.toList

theorem firstLine_eq (text line : List Char) :
    firstLine text (String.ofList line) = (trimmedLines text).idxOf line := by
  rw [firstLine, String.toList_ofList, trimmedLines, List.idxOf, List.findIdx_map]
  rfl

theorem values_eq (text : List Char) :
    values text = (keptLines text).eraseDups.map String.ofList := rfl

/-- The values stand in the order of their first lines. -/
theorem pairwise_firstLine_values (text : List Char) :
    (values text).Pairwise fun first second => firstLine text first < firstLine text second := by
  rw [values_eq, List.pairwise_map, keptLines, eraseDups_filter]
  simp only [firstLine_eq]
  exact (pairwise_idxOf_eraseDups (trimmedLines text)).filter _

theorem mem_keptLines_iff {line : List Char} :
    line ∈ keptLines text ↔ line ≠ [] ∧ ∃ whole ∈ Text.splitOn '\n' text, Text.trim whole = line := by
  rw [keptLines, List.mem_filter, trimmedLines, List.mem_map, and_comm]
  simp

/-- The values of a second text come after those of the first one, unless they are among these. -/
theorem values_append (front back : List Char) :
    values (front ++ '\n' :: back) =
      values front ++ (values back).filter fun location => location ∉ values front := by
  have hnew : ∀ line, (!(keptLines front).elem line) = decide (String.ofList line ∉ values front) := by
    intro line
    rw [Bool.eq_iff_iff, decide_eq_true_iff, mem_values_iff, String.toList_ofList]
    simp
  rw [values_eq, keptLines_append, List.eraseDups_append, List.removeAll, eraseDups_filter,
    List.map_append, ← values_eq, values_eq back, List.filter_map]
  exact congrArg _ (congrArg _ (List.filter_congr fun line _ => hnew line))

theorem keptLines_of_kept {line : List Char} (h : Kept line) : keptLines line = [line] := by
  rw [keptLines_of_line h.single, h.trimmed, if_neg h.nonempty]

section Listed

variable (hkept : ∀ location ∈ locations, Kept location.toList)

include hkept

/-- A mounts file that lists locations one per line has these lines. -/
theorem keptLines_fileContent : keptLines (fileContent locations) = locations.map String.toList := by
  induction locations with
  | nil => rfl
  | cons location rest ih =>
      obtain ⟨hfirst, hrest⟩ := List.forall_mem_cons.mp hkept
      have hcontent : fileContent (location :: rest) =
          location.toList ++ '\n' :: fileContent rest := by
        simp [fileContent]
      rw [hcontent, keptLines_append, keptLines_of_kept hfirst, ih hrest]
      rfl

/-- So does the text of the locations with line feeds between them. -/
theorem keptLines_join :
    keptLines (['\n'].intercalate (locations.map String.toList)) = locations.map String.toList := by
  induction locations with
  | nil => rfl
  | cons location rest ih =>
      obtain ⟨hfirst, hrest⟩ := List.forall_mem_cons.mp hkept
      cases rest with
      | nil =>
          rw [List.map_singleton, List.intercalate_singleton, keptLines_of_kept hfirst]
      | cons second others =>
          rw [List.map_cons, List.map_cons, List.intercalate_cons_cons, List.append_assoc,
            List.singleton_append, keptLines_append, keptLines_of_kept hfirst, ← List.map_cons,
            ih hrest]
          rfl

end Listed

/-- Values that are listed again, in whatever way, are the same values. -/
theorem values_of_keptLines {content : List Char}
    (h : keptLines content = (values text).map String.toList) : values content = values text := by
  have hnodup : ((values text).map String.toList).Nodup :=
    (nodup_values text).map fun _ _ h => String.toList_injective h
  rw [values_eq, h, eraseDups_of_nodup hnodup, List.map_map]
  simp [Function.comp_def]

theorem kept_of_mem_values {location : String} (h : location ∈ values text) :
    Kept location.toList :=
  kept_of_mem (mem_values_iff.mp h)

theorem values_fileContent (text : List Char) : values (fileContent (values text)) = values text :=
  values_of_keptLines (keptLines_fileContent fun _ => kept_of_mem_values)

theorem values_join (text : List Char) :
    values (['\n'].intercalate ((values text).map String.toList)) = values text :=
  values_of_keptLines (keptLines_join fun _ => kept_of_mem_values)

/-- The values of a policy entry are the first occurrences of its trimmed lines that are not blank. No two of
them are equal; each is one line, not empty, with no blanks around it; they are the trimmed lines that
are not empty, in the order of the lines in which they come first. Of a second text after a line feed
those are added that are not among the values yet, in their order; and the values, with line feeds
between them, are their own values. -/
theorem values_are_first_occurrences :
    (∀ text : List Char,
      (values text).Nodup ∧
      (∀ location ∈ values text,
        location ≠ "" ∧ '\n' ∉ location.toList ∧ Text.trim location.toList = location.toList) ∧
      (∀ location, location ∈ values text ↔
        location ≠ "" ∧ ∃ line ∈ Text.splitOn '\n' text, Text.trim line = location.toList) ∧
      ((values text).Pairwise fun first second => firstLine text first < firstLine text second) ∧
      values (['\n'].intercalate ((values text).map String.toList)) = values text) ∧
    ∀ front back : List Char,
      values (front ++ '\n' :: back) =
        values front ++ (values back).filter fun location => location ∉ values front := by
  have hempty : ∀ location : String, location.toList ≠ [] ↔ location ≠ "" := by
    intro location
    rw [Ne, String.toList_eq_nil_iff]
  refine ⟨fun text => ⟨nodup_values text, ?_, ?_, pairwise_firstLine_values text, values_join text⟩,
    values_append⟩
  · intro location hmem
    obtain ⟨hnonempty, hsingle, htrimmed⟩ := kept_of_mem_values hmem
    exact ⟨(hempty location).mp hnonempty, hsingle, htrimmed⟩
  · intro location
    rw [mem_values_iff, mem_keptLines_iff, hempty]

/-- Returns and separators around a line are trimmed away, so that three of the lines are one value; within a
line they stay. -/
theorem sample_values_are_first_occurrences :
    let text := "b\r\n\u00a0\nc\rd\n\u2028b\n\u001fb\n a".toList
    values text = ["b", "c\rd", "a"] ∧
      firstLine text "c\rd" = 2 ∧ firstLine text "c\rd" < firstLine text "a" ∧
      values (text ++ '\n' :: "z\na\nz".toList) = ["b", "c\rd", "a", "z"] := by
  intro text
  have hvalues : values text = ["b", "c\rd", "a"] := by decide +kernel
  have hmore : values "z\na\nz".toList = ["z", "a"] := by decide +kernel
  obtain ⟨htext, happend⟩ := values_are_first_occurrences
  obtain ⟨-, -, -, horder, -⟩ := htext text
  refine ⟨hvalues, by decide +kernel, ?_, ?_⟩
  · rw [hvalues] at horder
    simp only [List.pairwise_cons, List.mem_cons] at horder
    exact horder.2.1 "a" (.inl rfl)
  · rw [happend, hvalues, hmore]
    decide

end SessionMounts.Policy
