import Mathlib.Data.List.Nodup
import SessionMounts.MountsFile.Write
import SessionMounts.Proofs.Text.Lines

/-!
The values of a policy entry. They are the trimmed lines that are not blank (`keptLines`), each once; such a
line is not empty, has no line feed, and stays as it is when it is trimmed. Blanks at either end of the
text make no difference, since they are trimmed away or make blank lines.
-/

namespace SessionMounts.Policy

section Lines

variable {value line blanks : List Char}

/-- The lines that are kept, with repetitions. -/
def keptLines (value : List Char) : List (List Char) :=
  (trimmedLines value).filter fun line => !line.isEmpty

theorem keptLines_append (front back : List Char) :
    keptLines (front ++ '\n' :: back) = keptLines front ++ keptLines back := by
  rw [keptLines, trimmedLines, Text.splitOn_append, List.map_append, List.filter_append]
  rfl

theorem keptLines_of_line (hsingle : '\n' ∉ line) :
    keptLines line = if Text.trim line = [] then [] else [Text.trim line] := by
  rw [keptLines, trimmedLines, Text.splitOn_of_not_mem hsingle]
  by_cases hblank : Text.trim line = [] <;> simp [hblank]

/-- A line that is kept: not empty, a single line, and without blanks around it. -/
structure Kept (line : List Char) : Prop where
  nonempty : line ≠ []
  single : '\n' ∉ line
  trimmed : Text.trim line = line

theorem kept_of_mem (h : line ∈ keptLines value) : Kept line := by
  obtain ⟨hline, hnonempty⟩ := List.mem_filter.mp h
  obtain ⟨whole, hwhole, rfl⟩ := List.mem_map.mp hline
  refine ⟨by simpa using hnonempty, ?_, Text.trim_trim whole⟩
  intro hmem
  exact Text.not_mem_of_mem_splitOn hwhole (Text.mem_of_mem_trim hmem)

theorem mem_values_iff {location : String} :
    location ∈ values value ↔ location.toList ∈ keptLines value := by
  rw [values, ← keptLines, List.mem_map]
  constructor
  · rintro ⟨line, hline, rfl⟩
    rw [String.toList_ofList]
    exact List.mem_eraseDups.mp hline
  · intro h
    exact ⟨location.toList, List.mem_eraseDups.mpr h, String.ofList_toList⟩

theorem mem_of_mem_keptLines {c : Char} (hline : line ∈ keptLines value) (hc : c ∈ line) :
    c ∈ value := by
  obtain ⟨hmem, -⟩ := List.mem_filter.mp hline
  obtain ⟨whole, hwhole, rfl⟩ := List.mem_map.mp hmem
  exact Text.mem_of_mem_splitOn hwhole (Text.mem_of_mem_trim hc)

theorem nodup_eraseDups (lines : List (List Char)) : lines.eraseDups.Nodup := by
  cases lines with
  | nil => exact List.nodup_nil
  | cons first rest =>
      have hshorter := List.length_filter_le (fun line => !line == first) rest
      rw [List.eraseDups_cons, List.nodup_cons]
      refine ⟨?_, nodup_eraseDups _⟩
      rw [List.mem_eraseDups, List.mem_filter]
      rintro ⟨-, hdiffers⟩
      simp at hdiffers
termination_by lines.length

theorem nodup_values (value : List Char) : (values value).Nodup := by
  apply List.Nodup.map _ (nodup_eraseDups _)
  intro line other h
  rw [← String.toList_ofList (l := line), h, String.toList_ofList]

section Blanks

variable {c : Char}

theorem keptLines_cons_blank (hblank : Text.isBlank c = true) (text : List Char) :
    keptLines (c :: text) = keptLines text := by
  by_cases hfeed : c = '\n'
  · rw [hfeed]
    exact keptLines_append [] text
  · have hc : Text.Blank [c] := by simpa [Text.Blank] using hblank
    have hline : ∀ line, '\n' ∉ line → keptLines (c :: line) = keptLines line := by
      intro line hsingle
      have htrim : Text.trim (c :: line) = Text.trim line := Text.trim_blank_append hc line
      rw [keptLines_of_line hsingle, keptLines_of_line, htrim]
      simp [hsingle, Ne.symm hfeed]
    induction text using Text.byParts '\n' with
    | last line hsingle => exact hline line hsingle
    | more line rest hsingle _ =>
        rw [← List.cons_append, keptLines_append, keptLines_append, hline line hsingle]

theorem keptLines_concat_blank (hblank : Text.isBlank c = true) (text : List Char) :
    keptLines (text ++ [c]) = keptLines text := by
  by_cases hfeed : c = '\n'
  · rw [hfeed, keptLines_append]
    exact List.append_nil _
  · have hc : Text.Blank [c] := by simpa [Text.Blank] using hblank
    induction text using Text.byParts '\n' with
    | last line hsingle =>
        rw [keptLines_of_line hsingle, keptLines_of_line, Text.trim_append_blank hc]
        simp [hsingle, Ne.symm hfeed]
    | more line rest hsingle ih =>
        rw [List.append_assoc, List.cons_append, keptLines_append, keptLines_append, ih]

theorem keptLines_blank_append (hblanks : Text.Blank blanks) (text : List Char) :
    keptLines (blanks ++ text) = keptLines text := by
  induction blanks with
  | nil => rfl
  | cons c rest ih =>
      rw [List.cons_append, keptLines_cons_blank (hblanks c List.mem_cons_self)]
      exact ih fun other hmem => hblanks other (List.mem_cons_of_mem c hmem)

theorem keptLines_append_blank (hblanks : Text.Blank blanks) (text : List Char) :
    keptLines (text ++ blanks) = keptLines text := by
  induction blanks generalizing text with
  | nil => rw [List.append_nil]
  | cons c rest ih =>
      rw [← List.singleton_append, ← List.append_assoc,
        ih (fun other hmem => hblanks other (List.mem_cons_of_mem c hmem)),
        keptLines_concat_blank (hblanks c List.mem_cons_self)]

end Blanks

end Lines

/-! ### Line ends

Turning every kind of line end into a line feed is, as far as the values are concerned, turning every
carriage return into a line feed (`keptLines_unifyNewlines`), since the blank lines that this adds are not
kept. Carriage returns around a line are trimmed away in any case, so the values are the same exactly if
none of them has one inside (`values_unifyNewlines_eq_iff`), and so is the content of a mounts file that
lists them (`fileContent_unifyNewlines_eq_iff`). -/

section Newlines

open Text (unifyNewlines)

variable {text : List Char} {c : Char}

/-- A line feed for a carriage return, and any other character for itself. -/
def feedForReturn (c : Char) : Char := if c = '\r' then '\n' else c

theorem isBlank_feedForReturn (h : Text.isBlank c = true) :
    Text.isBlank (feedForReturn c) = true := by
  unfold feedForReturn
  split
  · decide
  · exact h

theorem map_feedForReturn_of_not_mem (h : '\r' ∉ text) : text.map feedForReturn = text := by
  calc
    text.map feedForReturn = text.map id := by
      apply List.map_congr_left
      intro c hc
      apply if_neg
      rintro rfl
      exact h hc
    _ = text := List.map_id text

theorem return_notMem_unifyNewlines (text : List Char) : '\r' ∉ unifyNewlines text := by
  fun_induction unifyNewlines text with
  | case1 => exact List.not_mem_nil
  | case2 rest ih => simpa using ih
  | case3 rest hmore ih => simpa using ih
  | case4 c rest hpair hreturn ih => simpa [Ne.symm hreturn] using ih

theorem unifyNewlines_of_not_mem (h : '\r' ∉ text) : unifyNewlines text = text := by
  fun_induction unifyNewlines text with
  | case1 => rfl
  | case2 rest ih => exact absurd List.mem_cons_self h
  | case3 rest hmore ih => exact absurd List.mem_cons_self h
  | case4 c rest hpair hreturn ih => rw [ih (fun hmem => h (List.mem_cons_of_mem c hmem))]

/-- As far as the values are concerned, every carriage return is turned into a line feed; the front is what
has been read of the first line. -/
theorem keptLines_append_unifyNewlines (front text : List Char) :
    keptLines (front ++ unifyNewlines text) = keptLines (front ++ text.map feedForReturn) := by
  fun_induction unifyNewlines text generalizing front with
  | case1 => rfl
  | case2 rest ih =>
      have hrest : keptLines (unifyNewlines rest) = keptLines (rest.map feedForReturn) := ih []
      calc
        keptLines (front ++ '\n' :: unifyNewlines rest)
            = keptLines front ++ keptLines (unifyNewlines rest) := keptLines_append _ _
        _ = keptLines front ++ ([] ++ keptLines (rest.map feedForReturn)) := by
            rw [hrest, List.nil_append]
        _ = keptLines (front ++ '\n' :: ([] ++ '\n' :: rest.map feedForReturn)) := by
            rw [keptLines_append front, keptLines_append []]
            rfl
  | case3 rest hmore ih =>
      have hrest : keptLines (unifyNewlines rest) = keptLines (rest.map feedForReturn) := ih []
      calc
        keptLines (front ++ '\n' :: unifyNewlines rest)
            = keptLines front ++ keptLines (unifyNewlines rest) := keptLines_append _ _
        _ = keptLines front ++ keptLines (rest.map feedForReturn) := by rw [hrest]
        _ = keptLines (front ++ '\n' :: rest.map feedForReturn) := (keptLines_append _ _).symm
  | case4 c rest hpair hreturn ih =>
      have hsame : feedForReturn c = c := if_neg hreturn
      rw [List.map_cons, hsame, List.append_cons front c (unifyNewlines rest),
        List.append_cons front c (rest.map feedForReturn)]
      exact ih (front ++ [c])

theorem keptLines_unifyNewlines (text : List Char) :
    keptLines (unifyNewlines text) = keptLines (text.map feedForReturn) :=
  keptLines_append_unifyNewlines [] text

/-- Carriage returns around a text make no difference. -/
theorem keptLines_map_of_trim (h : '\r' ∉ Text.trim text) :
    keptLines (text.map feedForReturn) = keptLines text := by
  obtain ⟨front, back, htext, hfront, hback⟩ := Text.exists_eq_trim text
  have hmapped : ∀ {blanks}, Text.Blank blanks → Text.Blank (blanks.map feedForReturn) := by
    intro blanks hblanks c hc
    obtain ⟨other, hother, rfl⟩ := List.mem_map.mp hc
    exact isBlank_feedForReturn (hblanks other hother)
  calc
    keptLines (text.map feedForReturn)
        = keptLines (front.map feedForReturn ++ Text.trim text ++ back.map feedForReturn) := by
          rw [← map_feedForReturn_of_not_mem h, ← List.map_append, ← List.map_append, ← htext]
    _ = keptLines (Text.trim text) := by
          rw [keptLines_append_blank (hmapped hback), keptLines_blank_append (hmapped hfront)]
    _ = keptLines (front ++ Text.trim text ++ back) := by
          rw [keptLines_append_blank hback, keptLines_blank_append hfront]
    _ = keptLines text := by rw [← htext]

/-- Carriage returns make no difference if no line that is kept has one. -/
theorem keptLines_map (h : ∀ line ∈ keptLines text, '\r' ∉ line) :
    keptLines (text.map feedForReturn) = keptLines text := by
  have hline : ∀ line, '\n' ∉ line → (∀ kept ∈ keptLines line, '\r' ∉ kept) →
      keptLines (line.map feedForReturn) = keptLines line := by
    intro line hsingle hkept
    apply keptLines_map_of_trim
    by_cases hblank : Text.trim line = []
    · rw [hblank]
      exact List.not_mem_nil
    · apply hkept
      rw [keptLines_of_line hsingle, if_neg hblank]
      exact List.mem_singleton_self _
  induction text using Text.byParts '\n' with
  | last line hsingle => exact hline line hsingle h
  | more line rest hsingle ih =>
      rw [keptLines_append] at h
      obtain ⟨hfirst, hrest⟩ := List.forall_mem_append.mp h
      have hfeed : feedForReturn '\n' = '\n' := by decide
      rw [List.map_append, List.map_cons, hfeed, keptLines_append, keptLines_append,
        hline line hsingle hfirst, ih hrest]

theorem return_notMem_of_mem_values {location : String}
    (h : location ∈ values (unifyNewlines text)) : '\r' ∉ location.toList :=
  fun hreturn => return_notMem_unifyNewlines text (mem_of_mem_keptLines (mem_values_iff.mp h) hreturn)

/-- With all line ends turned into line feeds the values are the same exactly if none of them has a
carriage return inside. -/
theorem values_unifyNewlines_eq_iff :
    values (unifyNewlines text) = values text ↔ ∀ location ∈ values text, '\r' ∉ location.toList := by
  constructor
  · intro hsame location hmem
    rw [← hsame] at hmem
    exact return_notMem_of_mem_values hmem
  · intro h
    have hkept : ∀ line ∈ keptLines text, '\r' ∉ line := by
      intro line hline
      have hmem : String.ofList line ∈ values text := by
        rwa [mem_values_iff, String.toList_ofList]
      have hno := h (String.ofList line) hmem
      rwa [String.toList_ofList] at hno
    have hlines := (keptLines_unifyNewlines text).trans (keptLines_map hkept)
    rw [keptLines, keptLines] at hlines
    rw [values, hlines, values]

/-- The content of the mounts file has the carriage returns of the values that it lists. -/
theorem return_mem_fileContent_iff {locations : List String} :
    '\r' ∈ fileContent locations ↔ ∃ location ∈ locations, '\r' ∈ location.toList := by
  simp [fileContent]

/-- The content of the mounts file tells whether the values are the same. -/
theorem fileContent_unifyNewlines_eq_iff :
    fileContent (values (unifyNewlines text)) = fileContent (values text) ↔
      ∀ location ∈ values text, '\r' ∉ location.toList := by
  constructor
  · intro hsame location hmem hreturn
    have hwritten : '\r' ∈ fileContent (values (unifyNewlines text)) := by
      rw [hsame]
      exact return_mem_fileContent_iff.mpr ⟨location, hmem, hreturn⟩
    obtain ⟨other, hother, hreturn⟩ := return_mem_fileContent_iff.mp hwritten
    exact return_notMem_of_mem_values hother hreturn
  · intro h
    rw [values_unifyNewlines_eq_iff.mpr h]

end Newlines

end SessionMounts.Policy
