import Mathlib.Data.List.DropRight
import SessionMounts.Text.Lines

/-!
Induction over the lines of a text, and trimming. A text has no break, or it is a line without one, a
break and a further text (`byBreaks`); what is said of its lines follows that shape. The break may be a
separator of one's own choice (`byParts`) or any line break of Unicode: a line without breaks is followed
by the lines of what comes after its break (`lines_append`, `exists_lines_break`).
-/

namespace SessionMounts.Text

section Breaks

variable {line text rest : List Char} {c : Char}

/-- Every text comes about from a last line by putting lines, each with a break, in front. -/
@[elab_as_elim]
theorem byBreaks (isBreak : Char → Bool) {motive : List Char → Prop}
    (last : ∀ line, (∀ c ∈ line, isBreak c = false) → motive line)
    (more : ∀ line c rest, (∀ d ∈ line, isBreak d = false) → isBreak c = true → motive rest →
      motive (line ++ c :: rest))
    (text : List Char) : motive text := by
  have hline : ∀ c ∈ text.takeWhile fun c => !isBreak c, isBreak c = false :=
    fun c hc => by simpa using List.all_eq_true.mp List.all_takeWhile c hc
  have htext := List.takeWhile_append_dropWhile (p := fun c => !isBreak c) (l := text)
  cases hmore : text.dropWhile fun c => !isBreak c with
  | nil =>
      rw [hmore, List.append_nil] at htext
      rw [htext] at hline
      exact last text hline
  | cons c rest =>
      have hbreak : isBreak c = true := by
        have hhead := List.head?_dropWhile_not (fun c => !isBreak c) text
        rw [hmore] at hhead
        simpa using hhead
      have hshorter : rest.length < text.length := by
        rw [← htext, hmore, List.length_append, List.length_cons]
        omega
      rw [← htext, hmore]
      exact more _ c rest hline hbreak (byBreaks isBreak last more rest)
termination_by text.length

/-- The same with the occurrences of a separator for breaks. -/
@[elab_as_elim]
theorem byParts (separator : Char) {motive : List Char → Prop}
    (last : ∀ part, separator ∉ part → motive part)
    (more : ∀ part rest, separator ∉ part → motive rest → motive (part ++ separator :: rest))
    (text : List Char) : motive text := by
  have hpart : ∀ part : List Char, (∀ c ∈ part, (c == separator) = false) → separator ∉ part :=
    fun part h hmem => absurd (h separator hmem) (by simp)
  induction text using byBreaks (· == separator) with
  | last part h => exact last part (hpart part h)
  | more part c rest h hc ih =>
      obtain rfl := beq_iff_eq.mp hc
      exact more part rest (hpart part h) ih

theorem splitOn_of_not_mem {separator : Char} {text : List Char} (h : separator ∉ text) :
    splitOn separator text = [text] := by
  induction text with
  | nil => rfl
  | cons c rest ih =>
      obtain ⟨hc, hrest⟩ := not_or.mp (mt List.mem_cons.mpr h)
      rw [splitOn, if_neg (Ne.symm hc), ih hrest]

theorem mem_of_mem_splitOn {separator c : Char} {text part : List Char}
    (hpart : part ∈ splitOn separator text) (hc : c ∈ part) : c ∈ text := by
  induction text using byParts separator with
  | last whole hwhole =>
      rw [splitOn_of_not_mem hwhole, List.mem_singleton] at hpart
      rwa [hpart] at hc
  | more first rest hfirst ih =>
      rw [splitOn_append, splitOn_of_not_mem hfirst, List.singleton_append] at hpart
      rcases List.mem_cons.mp hpart with rfl | hrest
      · exact List.mem_append_left _ hc
      · exact List.mem_append_right first (List.mem_cons_of_mem separator (ih hrest))

/-- A text without line breaks. -/
def Unbroken (line : List Char) : Prop := ∀ c ∈ line, isLineBreak c = false

theorem lines_cons_of_not_break (hc : isLineBreak c = false) (rest : List Char) :
    lines (c :: rest) =
      match lines rest with
      | [] => [[c]]
      | first :: others => (c :: first) :: others := by
  have hreturn : c ≠ '\r' := by
    rintro rfl
    cases hc
  rw [lines]
  · exact if_neg (by simp [hc])
  · exact fun _ h _ => hreturn h

theorem lines_of_unbroken (h : Unbroken line) (hne : line ≠ []) : lines line = [line] := by
  induction line with
  | nil => exact absurd rfl hne
  | cons c rest ih =>
      obtain ⟨hc, hrest⟩ := List.forall_mem_cons.mp h
      rw [lines_cons_of_not_break hc]
      cases rest with
      | nil => rfl
      | cons d others => rw [ih hrest (List.cons_ne_nil d others)]

/-- What follows a line comes after it. -/
theorem lines_append (h : Unbroken line) {tail : List Char} {others : List (List Char)}
    (htail : lines tail = [] :: others) : lines (line ++ tail) = line :: others := by
  induction line with
  | nil => exact htail
  | cons c rest ih =>
      obtain ⟨hc, hrest⟩ := List.forall_mem_cons.mp h
      rw [List.cons_append, lines_cons_of_not_break hc, ih hrest]

/-- A break ends a line. The lines of the text after it come next, without the empty one that a line feed
ends if it belongs to the break. -/
theorem exists_lines_break (hc : isLineBreak c = true) (rest : List Char) :
    ∃ others, lines (c :: rest) = [] :: others ∧ (lines rest = others ∨ lines rest = [] :: others) := by
  by_cases hpair : c = '\r' ∧ ∃ more, rest = '\n' :: more
  · obtain ⟨rfl, more, rfl⟩ := hpair
    exact ⟨lines more, rfl, .inr rfl⟩
  · refine ⟨lines rest, ?_, .inl rfl⟩
    rw [lines, if_pos hc]
    exact fun more hreturn hfeed => hpair ⟨hreturn, more, hfeed⟩

theorem isBlank_of_isLineBreak (h : isLineBreak c = true) : isBlank c = true := by
  simp only [isLineBreak, isBlank, Bool.or_eq_true, Bool.and_eq_true, decide_eq_true_eq,
    beq_iff_eq] at h ⊢
  omega

end Breaks

/-! ### Trimming

A text is a front that is dropped, the rest and a back that is dropped (`exists_eq_stripped`). What is
dropped at either end of a text does not count (`stripped_append_front`, `stripped_append_back`), and a text
that neither begins nor ends with something to drop stays as it is. For blanks this is trimming: a
trimmed text stays as it is when it is trimmed again, and it does not end with a blank. -/

section Trimming

variable {drop : Char → Bool} {text front back blanks : List Char} {c : Char}

section Stripped

theorem stripped_eq (drop : Char → Bool) (text : List Char) :
    stripped drop text = (text.dropWhile drop).rdropWhile drop := rfl

theorem exists_eq_stripped (drop : Char → Bool) (text : List Char) :
    ∃ front back, text = front ++ stripped drop text ++ back ∧ (∀ c ∈ front, drop c = true) ∧
      ∀ c ∈ back, drop c = true := by
  refine ⟨text.takeWhile drop, (text.dropWhile drop).rtakeWhile drop, ?_, ?_, ?_⟩
  · rw [stripped_eq, List.append_assoc, List.rdropWhile_append_rtakeWhile,
      List.takeWhile_append_dropWhile]
  · exact fun c hc => List.mem_takeWhile_imp hc
  · exact fun c hc => List.mem_rtakeWhile_imp hc

theorem stripped_eq_nil_iff : stripped drop text = [] ↔ ∀ c ∈ text, drop c = true := by
  rw [stripped_eq, List.rdropWhile_eq_nil_iff]
  constructor
  · intro h c hc
    rw [← List.takeWhile_append_dropWhile (p := drop) (l := text), List.mem_append] at hc
    rcases hc with hc | hc
    · exact List.mem_takeWhile_imp hc
    · exact h c hc
  · intro h c hc
    exact h c ((List.dropWhile_sublist drop).mem hc)

theorem stripped_append_front (h : ∀ c ∈ front, drop c = true) (text : List Char) :
    stripped drop (front ++ text) = stripped drop text := by
  rw [stripped_eq, stripped_eq, List.dropWhile_append_of_pos h]

theorem stripped_append_back (h : ∀ c ∈ back, drop c = true) (text : List Char) :
    stripped drop (text ++ back) = stripped drop text := by
  by_cases htext : ∀ c ∈ text, drop c = true
  · rw [stripped_append_front htext, stripped_eq_nil_iff.mpr htext, stripped_eq_nil_iff.mpr h]
  · have hkept : (text.dropWhile drop).isEmpty = false := by
      rw [List.isEmpty_eq_false_iff, Ne, List.dropWhile_eq_nil_iff]
      exact htext
    have hback : ∀ c ∈ back.reverse, drop c = true := fun c hc => h c (List.mem_reverse.mp hc)
    rw [stripped_eq, stripped_eq, List.dropWhile_append, hkept, if_neg Bool.false_ne_true]
    rw [List.rdropWhile, List.rdropWhile, List.reverse_append, List.dropWhile_append_of_pos hback]

/-- A text with nothing to drop at its ends stays as it is. -/
theorem stripped_of_ends (hhead : ∀ c, text.head? = some c → drop c = false)
    (hlast : ∀ c, text.getLast? = some c → drop c = false) : stripped drop text = text := by
  have hfront : text.dropWhile drop = text := by
    cases text with
    | nil => rfl
    | cons c rest => rw [List.dropWhile_cons, hhead c rfl, if_neg Bool.false_ne_true]
  rw [stripped_eq, hfront, List.rdropWhile_eq_self_iff]
  intro hne
  rw [hlast _ (List.getLast?_eq_some_getLast hne)]
  exact Bool.false_ne_true

end Stripped

/-- A text of blanks only. -/
def Blank (text : List Char) : Prop := ∀ c ∈ text, isBlank c = true

theorem exists_eq_trim (text : List Char) :
    ∃ front back, text = front ++ trim text ++ back ∧ Blank front ∧ Blank back :=
  exists_eq_stripped isBlank text

theorem mem_of_mem_trim (h : c ∈ trim text) : c ∈ text := by
  obtain ⟨front, back, htext, -, -⟩ := exists_eq_trim text
  rw [htext]
  exact List.mem_append_left back (List.mem_append_right front h)

theorem trim_eq_nil_iff : trim text = [] ↔ Blank text := stripped_eq_nil_iff

theorem trim_blank_append (h : Blank blanks) (text : List Char) :
    trim (blanks ++ text) = trim text :=
  stripped_append_front h text

theorem trim_append_blank (h : Blank blanks) (text : List Char) :
    trim (text ++ blanks) = trim text :=
  stripped_append_back h text

theorem trim_trim (text : List Char) : trim (trim text) = trim text := by
  obtain ⟨front, back, htext, hfront, hback⟩ := exists_eq_trim text
  calc
    trim (trim text) = trim (front ++ trim text) := (trim_blank_append hfront _).symm
    _ = trim (front ++ trim text ++ back) := (trim_append_blank hback _).symm
    _ = trim text := by rw [← htext]

/-- A trimmed text does not end with a blank. -/
theorem isBlank_of_getLast?_trim (h : (trim text).getLast? = some c) : isBlank c = false := by
  have hne : trim text ≠ [] := by
    intro hnone
    rw [hnone] at h
    cases h
  rw [← (List.getLast_eq_iff_getLast?_eq_some hne).mpr h]
  exact Bool.eq_false_iff.mpr (List.rdropWhile_last_not isBlank (text.dropWhile isBlank) hne)

end Trimming

end SessionMounts.Text
