import Mathlib.Data.Nat.Digits.Lemmas
import SessionMounts.Owner
import SessionMounts.Proofs.Text.Lines

/-!
The grammar of integer literals. A literal is made of margins, a sign and digits (`Literal`); its digits may be
of any scripts, with single underscores between them (`Digits`), and its value is what they write in base
ten. Exactly the texts of literals are read, and their values are what they are read as
(`parse?_eq_some_iff`). A number of no more digits than a literal may have is read from its decimal
text (`Literal.ofInt`), and zeros in front of the digits do not change a value (`Literal.value_padded`).
-/

namespace SessionMounts.Text.Integer

variable {c : Char} {d : Nat}

/-- A decimal digit of some script, and its value: the digits of a script are ten in a row. -/
def IsDigit (c : Char) (d : Nat) : Prop :=
  d < 10 ∧ ∃ first ∈ digitZeros, c.toNat = first + d

/-- The digits of two scripts do not overlap. -/
theorem apart_of_mem_digitZeros :
    ∀ first ∈ digitZeros, ∀ other ∈ digitZeros,
      first = other ∨ first + 10 ≤ other ∨ other + 10 ≤ first := by
  decide +kernel

theorem digitValue?_eq_some_iff : digitValue? c = some d ↔ IsDigit c d := by
  rw [digitValue?, Option.map_eq_some_iff]
  constructor
  · rintro ⟨first, hfind, rfl⟩
    have hrange := List.find?_some hfind
    simp only [Bool.and_eq_true, decide_eq_true_eq] at hrange
    exact ⟨by omega, first, List.mem_of_find?_eq_some hfind, by omega⟩
  · rintro ⟨hlt, first, hfirst, hc⟩
    obtain ⟨other, hfind⟩ : ∃ other, digitZeros.find? (fun first =>
        first ≤ c.toNat && c.toNat < first + 10) = some other := by
      rw [← Option.isSome_iff_exists, List.find?_isSome]
      exact ⟨first, hfirst, by simp only [Bool.and_eq_true, decide_eq_true_eq]; omega⟩
    have hrange := List.find?_some hfind
    simp only [Bool.and_eq_true, decide_eq_true_eq] at hrange
    refine ⟨other, hfind, ?_⟩
    rcases apart_of_mem_digitZeros first hfirst other (List.mem_of_find?_eq_some hfind) with h | h <;>
      omega

/-- Digits are neither blanks nor signs, underscores or colons. -/
theorem plain_of_mem_digitZeros :
    ∀ first ∈ digitZeros, ∀ d < 10,
      let c := Char.ofNat (first + d)
      isBlank c = false ∧ c ∉ ['+', '-', '_', ':'] := by
  decide +kernel

theorem IsDigit.plain (h : IsDigit c d) : isBlank c = false ∧ c ∉ ['+', '-', '_', ':'] := by
  obtain ⟨hlt, first, hfirst, hc⟩ := h
  have hplain := plain_of_mem_digitZeros first hfirst d hlt
  rwa [← hc, Char.ofNat_toNat] at hplain

section Digits

variable {n : Nat} {text : List Char} {ds : List Nat}

/-- The texts that write a sequence of digits, with a single underscore between two of them or with none. -/
inductive Digits : List Char → List Nat → Prop where
  | last {c : Char} {d : Nat} (hc : IsDigit c d) : Digits [c] [d]
  | more {c : Char} {d : Nat} {text : List Char} {ds : List Nat} (hc : IsDigit c d)
      (hrest : Digits text ds) : Digits (c :: text) (d :: ds)
  | underscored {c : Char} {d : Nat} {text : List Char} {ds : List Nat} (hc : IsDigit c d)
      (hrest : Digits text ds) : Digits (c :: '_' :: text) (d :: ds)

namespace Digits

theorem exists_cons (h : Digits text ds) : ∃ c d rest, text = c :: rest ∧ IsDigit c d := by
  cases h with
  | last hc => exact ⟨_, _, _, rfl, hc⟩
  | more hc _ => exact ⟨_, _, _, rfl, hc⟩
  | underscored hc _ => exact ⟨_, _, _, rfl, hc⟩

theorem of_mem (h : Digits text ds) : ∀ c ∈ text, c = '_' ∨ ∃ d, IsDigit c d := by
  induction h with
  | last hc => exact List.forall_mem_singleton.mpr (.inr ⟨_, hc⟩)
  | more hc _ ih => exact List.forall_mem_cons.mpr ⟨.inr ⟨_, hc⟩, ih⟩
  | underscored hc _ ih =>
      exact List.forall_mem_cons.mpr ⟨.inr ⟨_, hc⟩, List.forall_mem_cons.mpr ⟨.inl rfl, ih⟩⟩

end Digits

theorem digits?_cons (hc : IsDigit c d) (hrest : Digits text ds) :
    digits? (c :: text) = (digits? text).map (d :: ·) ∧
      digits? (c :: '_' :: text) = (digits? text).map (d :: ·) := by
  obtain ⟨first, value, rest, rfl, hfirst⟩ := hrest.exists_cons
  have hunderscore : first ≠ '_' := by
    rintro rfl
    exact hfirst.plain.2 (by decide)
  have hvalue := digitValue?_eq_some_iff.mpr hc
  constructor
  · rw [digits?, hvalue]
    · cases digits? (first :: rest) <;> rfl
    · exact List.cons_ne_nil first rest
    · exact fun others h => hunderscore (List.cons.inj h).1
  · rw [digits?, hvalue]
    cases digits? (first :: rest) <;> rfl

/-- Digits are read exactly from the texts that write them. -/
theorem digits?_eq_some_iff : digits? text = some ds ↔ Digits text ds := by
  constructor
  · intro h
    fun_induction digits? text generalizing ds with
    | case1 => cases h
    | case2 c =>
        obtain ⟨d, hd, rfl⟩ := Option.map_eq_some_iff.mp h
        exact .last (digitValue?_eq_some_iff.mp hd)
    | case3 c rest d others hothers hd ih =>
        cases h
        exact .underscored (digitValue?_eq_some_iff.mp hd) (ih hothers)
    | case4 => cases h
    | case5 c rest _ _ d others hothers hd ih =>
        cases h
        exact .more (digitValue?_eq_some_iff.mp hd) (ih hothers)
    | case6 => cases h
  · intro h
    induction h with
    | last hc => rw [digits?, digitValue?_eq_some_iff.mpr hc]; rfl
    | more hc hrest ih => rw [(digits?_cons hc hrest).1, ih]; rfl
    | underscored hc hrest ih => rw [(digits?_cons hc hrest).2, ih]; rfl

theorem valueOf_eq (ds : List Nat) : valueOf ds = Nat.ofDigits 10 ds.reverse := by
  rw [valueOf, Nat.ofDigits_eq_foldr, List.foldr_reverse]
  simp only [Nat.cast_id, Nat.add_comm]

theorem magnitude?_eq_some_iff :
    magnitude? text = some n ↔
      ∃ ds, Digits text ds ∧ ds.length ≤ maxDigits ∧ Nat.ofDigits 10 ds.reverse = n := by
  rw [magnitude?]
  cases hdigits : digits? text with
  | none =>
      refine iff_of_false (by rintro ⟨⟩) ?_
      rintro ⟨ds, hds, -⟩
      rw [digits?_eq_some_iff.mpr hds] at hdigits
      cases hdigits
  | some ds =>
      have honly : ∀ {es}, Digits text es → es = ds := fun hes =>
        Option.some.inj ((digits?_eq_some_iff.mpr hes).symm.trans hdigits)
      rw [Option.ite_none_right_eq_some, Option.some_inj, valueOf_eq]
      constructor
      · rintro ⟨hlength, hvalue⟩
        exact ⟨ds, digits?_eq_some_iff.mp hdigits, hlength, hvalue⟩
      · rintro ⟨es, hes, hlength, hvalue⟩
        rw [honly hes] at hlength hvalue
        exact ⟨hlength, hvalue⟩

end Digits

/-- The sign of a literal, if it has one. -/
inductive Sign where
  | absent
  | plus
  | minus
  deriving DecidableEq, Repr

def Sign.chars : Sign → List Char
  | .absent => []
  | .plus => ['+']
  | .minus => ['-']

def Sign.applied (n : Nat) : Sign → Int
  | .minus => -n
  | _ => n

/-- An integer literal: margins, a sign, and digits with their values, of which there may not be too many. -/
structure Literal where
  front : List Char
  sign : Sign
  digits : List Char
  values : List Nat
  back : List Char
  front_margin : ∀ c ∈ front, isMargin c = true
  back_margin : ∀ c ∈ back, isMargin c = true
  spelled : Digits digits values
  bounded : values.length ≤ maxDigits

namespace Literal

def text (literal : Literal) : List Char :=
  literal.front ++ (literal.sign.chars ++ literal.digits) ++ literal.back

/-- The number that the digits write in base ten, with the sign. -/
def value (literal : Literal) : Int :=
  literal.sign.applied (Nat.ofDigits 10 literal.values.reverse)

/-- Inside its margins a literal has no blank that might be one, and no colon. -/
theorem plain (literal : Literal) :
    ∀ c ∈ literal.sign.chars ++ literal.digits, isMargin c = false ∧ c ≠ ':' := by
  have hsign : ∀ c ∈ literal.sign.chars, isMargin c = false ∧ c ≠ ':' := by
    cases literal.sign with
    | absent => exact fun _ h => absurd h List.not_mem_nil
    | plus => exact List.forall_mem_singleton.mpr (by decide)
    | minus => exact List.forall_mem_singleton.mpr (by decide)
  have hdigits : ∀ c ∈ literal.digits, isMargin c = false ∧ c ≠ ':' := by
    intro c hc
    rcases literal.spelled.of_mem c hc with rfl | ⟨d, hdigit⟩
    · decide
    · obtain ⟨hblank, hother⟩ := hdigit.plain
      rw [isMargin, hblank, Bool.false_and]
      exact ⟨rfl, fun hcolon => hother (by simp [hcolon])⟩
  exact List.forall_mem_append.mpr ⟨hsign, hdigits⟩

/-- Reading comes down to the sign and the digits. -/
theorem stripped_text (literal : Literal) :
    stripped isMargin literal.text = literal.sign.chars ++ literal.digits := by
  rw [text, stripped_append_back literal.back_margin, stripped_append_front literal.front_margin]
  apply stripped_of_ends
  · intro c hc
    exact (literal.plain c (List.mem_of_head? hc)).1
  · intro c hc
    exact (literal.plain c (List.mem_of_getLast? hc)).1

theorem colon_not_mem_text (literal : Literal) : ':' ∉ literal.text := by
  have hmargin : ∀ {blanks : List Char}, (∀ c ∈ blanks, isMargin c = true) → ':' ∉ blanks :=
    fun h hmem => absurd (h ':' hmem) (by decide)
  have hinner : ':' ∉ literal.sign.chars ++ literal.digits := fun hmem => (literal.plain ':' hmem).2 rfl
  rw [text, List.mem_append, List.mem_append, not_or, not_or]
  exact ⟨⟨hmargin literal.front_margin, hinner⟩, hmargin literal.back_margin⟩

end Literal

section Reading

variable {text rest : List Char} {ds : List Nat}

theorem parse?_eq (text : List Char) :
    parse? text = match stripped isMargin text with
      | '-' :: rest => (magnitude? rest).map Sign.minus.applied
      | '+' :: rest => (magnitude? rest).map Sign.plus.applied
      | rest => (magnitude? rest).map Sign.absent.applied := by
  have hcast : ∀ (sign : Int → Int) (read : Option Nat),
      Option.map sign (read >>= fun n => pure (n : Int)) = read.map fun (n : Nat) => sign n := by
    intro sign read
    cases read <;> rfl
  simp only [parse?, hcast]
  rfl

theorem parse?_of_stripped {sign : Sign} (h : stripped isMargin text = sign.chars ++ rest)
    (hrest : Digits rest ds) : parse? text = (magnitude? rest).map sign.applied := by
  obtain ⟨first, d, others, rfl, hfirst⟩ := hrest.exists_cons
  rw [parse?_eq, h]
  cases sign with
  | plus => rfl
  | minus => rfl
  | absent =>
      -- a digit is no sign
      split
      · rename_i heq
        cases heq
        exact absurd hfirst.plain.2 (by decide)
      · rename_i heq
        cases heq
        exact absurd hfirst.plain.2 (by decide)
      · rfl

/-- Exactly the texts of literals are read, as the values of these. -/
theorem parse?_eq_some_iff {n : Int} :
    parse? text = some n ↔ ∃ literal : Literal, literal.text = text ∧ literal.value = n := by
  constructor
  · intro h
    obtain ⟨front, back, htext, hfront, hback⟩ := exists_eq_stripped isMargin text
    have hliteral : ∀ (sign : Sign) {rest : List Char},
        stripped isMargin text = sign.chars ++ rest →
        (magnitude? rest).map sign.applied = some n →
        ∃ literal : Literal, literal.text = text ∧ literal.value = n := by
      intro sign rest hstripped hmagnitude
      obtain ⟨m, hm, rfl⟩ := Option.map_eq_some_iff.mp hmagnitude
      obtain ⟨ds, hds, hlength, rfl⟩ := magnitude?_eq_some_iff.mp hm
      rw [hstripped] at htext
      exact ⟨⟨front, sign, rest, ds, back, hfront, hback, hds, hlength⟩, htext.symm, rfl⟩
    rw [parse?_eq] at h
    split at h
    · exact hliteral .minus ‹_› h
    · exact hliteral .plus ‹_› h
    · exact hliteral .absent rfl h
  · rintro ⟨literal, rfl, rfl⟩
    rw [parse?_of_stripped literal.stripped_text literal.spelled, Option.map_eq_some_iff]
    exact ⟨_, magnitude?_eq_some_iff.mpr ⟨_, literal.spelled, literal.bounded, rfl⟩, rfl⟩

end Reading

section Decimal

variable {text : List Char} {n : Int}

theorem isDigit_of_ascii (h : c.isDigit = true) : IsDigit c (c.toNat - '0'.toNat) := by
  simp only [Char.isDigit, Bool.and_eq_true, decide_eq_true_eq, UInt32.le_iff_toNat_le] at h
  have hlow : '0'.toNat ≤ c.toNat := h.1
  have hhigh : c.toNat ≤ '9'.toNat := h.2
  have hspan : '9'.toNat = '0'.toNat + 9 := rfl
  exact ⟨by omega, '0'.toNat, by decide, by omega⟩

/-- The values of ASCII digits. -/
def asciiValues (text : List Char) : List Nat :=
  text.map fun c => c.toNat - '0'.toNat

theorem digits_of_ascii (hne : text ≠ []) (h : ∀ c ∈ text, c.isDigit = true) :
    Digits text (asciiValues text) := by
  induction text with
  | nil => exact absurd rfl hne
  | cons c rest ih =>
      have hc := isDigit_of_ascii (h c (List.mem_cons_self ..))
      cases rest with
      | nil => exact .last hc
      | cons next others =>
          exact .more hc (ih (List.cons_ne_nil next others) fun c hc => h c (List.mem_cons_of_mem _ hc))

theorem digits_toDigits (n : Nat) :
    Digits (Nat.toDigits 10 n) (asciiValues (Nat.toDigits 10 n)) := by
  apply digits_of_ascii Nat.toDigits_ne_nil
  intro c hc
  exact Nat.isDigit_of_mem_toDigits (by decide) (by decide) hc

-- for any length, so that no power of ten is ever computed
theorem length_toDigits_le {n length : Nat} (hpos : 0 < length) (h : n < 10 ^ length) :
    (Nat.toDigits 10 n).length ≤ length :=
  (Nat.length_toDigits_le_iff (by decide) hpos).mpr h

/-- The plain decimal writing of a number. -/
def Literal.ofInt (n : Int) (h : n.natAbs < 10 ^ maxDigits) : Literal where
  front := []
  sign := if n < 0 then .minus else .absent
  digits := Nat.toDigits 10 n.natAbs
  values := asciiValues (Nat.toDigits 10 n.natAbs)
  back := []
  front_margin := fun _ h => absurd h List.not_mem_nil
  back_margin := fun _ h => absurd h List.not_mem_nil
  spelled := digits_toDigits n.natAbs
  bounded := by
    rw [asciiValues, List.length_map]
    exact length_toDigits_le (by decide) h

namespace Literal

theorem text_ofInt (h : n.natAbs < 10 ^ maxDigits) : (ofInt n h).text = (toString n).toList := by
  have htext : (ofInt n h).text =
      (if n < 0 then Sign.minus else .absent).chars ++ Nat.toDigits 10 n.natAbs :=
    List.append_nil _
  rw [htext, Int.toString_eq_repr, Int.repr_eq_if]
  by_cases hneg : n < 0
  · have hmagnitude : (-n).toNat = n.natAbs := by omega
    rw [if_pos hneg, if_neg (by omega), hmagnitude, String.toList_append, Nat.toList_repr]
    rfl
  · have hmagnitude : n.toNat = n.natAbs := by omega
    rw [if_neg hneg, if_pos (by omega), hmagnitude, Nat.toList_repr]
    rfl

theorem value_ofInt (h : n.natAbs < 10 ^ maxDigits) : (ofInt n h).value = n := by
  have hmagnitude : Nat.ofDigits 10 (asciiValues (Nat.toDigits 10 n.natAbs)).reverse = n.natAbs := by
    rw [← valueOf_eq, valueOf, asciiValues, List.foldl_map, ← Nat.ofDigitChars_eq_foldl,
      Nat.ofDigitChars_ten_toDigits]
  have hvalue : (ofInt n h).value = (if n < 0 then Sign.minus else .absent).applied n.natAbs :=
    congrArg (fun magnitude => Sign.applied magnitude _) hmagnitude
  rw [hvalue]
  by_cases hneg : n < 0
  · rw [if_pos hneg, Sign.applied]
    omega
  · rw [if_neg hneg]
    change (n.natAbs : Int) = n
    omega

end Literal

end Decimal

section Padding

variable {zeros text : List Char} {n : Nat} {ds : List Nat}

/-- Zeros to stand in front of digits, each with an underscore behind it or with none. -/
inductive Zeros : List Char → Nat → Prop where
  | nothing : Zeros [] 0
  | more {c : Char} {zeros : List Char} {n : Nat} (hc : IsDigit c 0) (hrest : Zeros zeros n) :
      Zeros (c :: zeros) (n + 1)
  | underscored {c : Char} {zeros : List Char} {n : Nat} (hc : IsDigit c 0) (hrest : Zeros zeros n) :
      Zeros (c :: '_' :: zeros) (n + 1)

theorem Zeros.digits (h : Zeros zeros n) (hds : Digits text ds) :
    Digits (zeros ++ text) (List.replicate n 0 ++ ds) := by
  induction h with
  | nothing => exact hds
  | more hc _ ih => exact .more hc ih
  | underscored hc _ ih => exact .underscored hc ih

namespace Literal

/-- The literal with zeros in front of its digits. -/
def padded (literal : Literal) (h : Zeros zeros n) (hroom : n + literal.values.length ≤ maxDigits) :
    Literal where
  __ := literal
  digits := zeros ++ literal.digits
  values := List.replicate n 0 ++ literal.values
  spelled := h.digits literal.spelled
  bounded := by rwa [List.length_append, List.length_replicate]

theorem value_padded (literal : Literal) (h : Zeros zeros n)
    (hroom : n + literal.values.length ≤ maxDigits) :
    (literal.padded h hroom).value = literal.value := by
  rw [value, padded, List.reverse_append, List.reverse_replicate, Nat.ofDigits_append_replicate_zero,
    value]

end Literal

end Padding

end SessionMounts.Text.Integer
