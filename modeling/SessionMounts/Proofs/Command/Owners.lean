import SessionMounts.Command.Arguments
import SessionMounts.Proofs.Text.Literal

/-!
The owners that are read. Exactly the texts that spell an owner (`Spells`) are read, as the owner that they
spell, and the value of the owner switch is malformed in all other cases. Since literals have no colons,
neither has the rest of a text after its first one.
-/

namespace SessionMounts.Owner

open Text.Integer (Literal Zeros asciiValues maxDigits)

variable {text front back : List Char} {owner : Owner}

/-- A text is cut at its first colon. -/
theorem halves?_eq_some_iff :
    halves? text = some (front, back) ↔ text = front ++ ':' :: back ∧ ':' ∉ front := by
  constructor
  · intro h
    fun_induction halves? text generalizing front back with
    | case1 => cases h
    | case2 rest =>
        cases h
        exact ⟨rfl, List.not_mem_nil⟩
    | case3 c rest hc ih =>
        obtain ⟨⟨before, after⟩, hrest, heq⟩ := Option.map_eq_some_iff.mp h
        cases heq
        obtain ⟨rfl, hbefore⟩ := ih hrest
        exact ⟨rfl, List.not_mem_cons_of_ne_of_not_mem (Ne.symm hc) hbefore⟩
  · rintro ⟨rfl, hfront⟩
    induction front with
    | nil => rfl
    | cons c rest ih =>
        rw [List.mem_cons, not_or] at hfront
        obtain ⟨hc, hrest⟩ := hfront
        rw [List.cons_append, halves?, ih hrest]
        · rfl
        · exact Ne.symm hc

/-- A text spells an owner if a literal of the user stands before its first colon and a literal of the group
behind it. -/
def Spells (text : List Char) (owner : Owner) : Prop :=
  ∃ front back, text = front ++ ':' :: back ∧ ':' ∉ front ∧
    (∃ user : Literal, user.text = front ∧ user.value = owner.user) ∧
    ∃ group : Literal, group.text = back ∧ group.value = owner.group

theorem parse?_eq_some_iff : parse? text = some owner ↔ Spells text owner := by
  constructor
  · intro h
    simp only [parse?] at h
    split at h
    · cases h
    · rename_i front back hhalves
      obtain ⟨htext, hfront⟩ := halves?_eq_some_iff.mp hhalves
      split at h
      · rename_i user group huser hgroup
        cases h
        exact ⟨front, back, htext, hfront, Text.Integer.parse?_eq_some_iff.mp huser,
          Text.Integer.parse?_eq_some_iff.mp hgroup⟩
      · cases h
  · rintro ⟨front, back, htext, hfront, huser, hgroup⟩
    rw [parse?, halves?_eq_some_iff.mpr ⟨htext, hfront⟩]
    simp only [Text.Integer.parse?_eq_some_iff.mpr huser, Text.Integer.parse?_eq_some_iff.mpr hgroup]

theorem parse?_eq_none_iff : parse? text = none ↔ ∀ owner, ¬ Spells text owner := by
  simp only [Option.eq_none_iff_forall_ne_some, ne_eq, parse?_eq_some_iff]

theorem parse?_literals (user group : Literal) :
    parse? (user.text ++ ':' :: group.text) = some ⟨user.value, group.value⟩ :=
  parse?_eq_some_iff.mpr ⟨user.text, group.text, rfl, user.colon_not_mem_text, ⟨user, rfl, rfl⟩,
    ⟨group, rfl, rfl⟩⟩

theorem Spells.count_colon (h : Spells text owner) : text.count ':' = 1 := by
  obtain ⟨_, _, rfl, -, ⟨user, rfl, -⟩, group, rfl, -⟩ := h
  rw [List.count_append, List.count_cons_self, List.count_eq_zero.mpr user.colon_not_mem_text,
    List.count_eq_zero.mpr group.colon_not_mem_text]

theorem toList_text (owner : Owner) :
    owner.text.toList = (toString owner.user).toList ++ ':' :: (toString owner.group).toList := by
  rw [text, String.toList_append, String.toList_append, List.append_assoc]
  rfl

/-- What an owner is written as is read as the same owner. -/
theorem parse?_text (huser : owner.user.natAbs < 10 ^ maxDigits)
    (hgroup : owner.group.natAbs < 10 ^ maxDigits) : parse? owner.text.toList = some owner := by
  rw [toList_text, ← Literal.text_ofInt huser, ← Literal.text_ofInt hgroup, parse?_literals,
    Literal.value_ofInt, Literal.value_ofInt]

open Command in
/-- The owner switch takes the owner that its value spells; a value that spells none is malformed. -/
theorem set_owner (value : String) (settings : Settings) :
    (∃ owner, Spells value.toList owner ∧
      settings.set .owner value = .ok { settings with owner := .given owner }) ∨
    ((∀ owner, ¬ Spells value.toList owner) ∧
      settings.set .owner value = .error (.malformedOwner value)) := by
  cases hread : parse? value.toList with
  | some owner =>
      refine Or.inl ⟨owner, parse?_eq_some_iff.mp hread, ?_⟩
      simp only [Settings.set, hread]
  | none =>
      refine Or.inr ⟨parse?_eq_none_iff.mp hread, ?_⟩
      simp only [Settings.set, hread]

open Command in
/-- Exactly the texts that spell an owner are read, as that owner, and all other values of the switch are
malformed. What an owner of at most 4300 digits per number is written as spells it, zeros in front of the
digits change neither number, and no text with two colons is read. -/
theorem owners_are_read_as_spelled :
    (∀ text owner, parse? text = some owner ↔ Spells text owner) ∧
    (∀ text, parse? text = none ↔ ∀ owner, ¬ Spells text owner) ∧
    (∀ (value : String) (settings : Settings),
      (∃ owner, Spells value.toList owner ∧
        settings.set .owner value = .ok { settings with owner := .given owner }) ∨
      ((∀ owner, ¬ Spells value.toList owner) ∧
        settings.set .owner value = .error (.malformedOwner value))) ∧
    (∀ owner : Owner, owner.user.natAbs < 10 ^ maxDigits → owner.group.natAbs < 10 ^ maxDigits →
      parse? owner.text.toList = some owner) ∧
    (∀ (user group : Literal) {userZeros groupZeros : List Char} {more fill : Nat}
      (huser : Zeros userZeros more) (huserRoom : more + user.values.length ≤ maxDigits)
      (hgroup : Zeros groupZeros fill) (hgroupRoom : fill + group.values.length ≤ maxDigits),
      parse? ((user.padded huser huserRoom).text ++ ':' :: (group.padded hgroup hgroupRoom).text) =
        some ⟨user.value, group.value⟩) ∧
    ∀ text : List Char, 2 ≤ text.count ':' → parse? text = none := by
  refine ⟨fun _ _ => parse?_eq_some_iff, fun _ => parse?_eq_none_iff,
    set_owner, fun _ huser hgroup => parse?_text huser hgroup, ?_, ?_⟩
  · intro user group _ _ _ _ huser huserRoom hgroup hgroupRoom
    rw [parse?_literals, Literal.value_padded, Literal.value_padded]
  · intro text hcolons
    refine parse?_eq_none_iff.mpr fun owner h => ?_
    have hone := h.count_colon
    omega

open Command in
/-- Digits of two scripts with blanks around and an underscore between them, a missing group, a negative
user, zeros in front, and a second colon. -/
theorem sample_owners_are_read_as_spelled :
    Spells " \u00a0+0_1\u0662:-\uff17\t".toList ⟨12, -7⟩ ∧
      (∀ settings : Settings, settings.set .owner "12:" = .error (.malformedOwner "12:")) ∧
      parse? (Owner.text ⟨-5, 0⟩).toList = some ⟨-5, 0⟩ ∧
      parse? "0_12:\u066007".toList = some ⟨12, 7⟩ ∧
      parse? "1:2:3".toList = none := by
  obtain ⟨hread, hnone, hset, hwritten, hpadded, hcolons⟩ := owners_are_read_as_spelled
  have hsmall : ∀ {n : Nat}, n < maxDigits → n < 10 ^ maxDigits := fun h =>
    h.trans (Nat.lt_pow_self (by decide))
  refine ⟨(hread _ _).mp (by decide +kernel), ?_, ?_, ?_, ?_⟩
  · intro settings
    have hnot := (hnone "12:".toList).mp (by decide +kernel)
    obtain ⟨owner, h, -⟩ | ⟨-, h⟩ := hset "12:" settings
    · exact absurd h (hnot owner)
    · exact h
  · exact hwritten ⟨-5, 0⟩ (hsmall (by decide)) (hsmall (by decide))
  · have hzero : Text.Integer.IsDigit '0' 0 := Text.Integer.digitValue?_eq_some_iff.mp (by decide)
    have harabic : Text.Integer.IsDigit '\u0660' 0 :=
      Text.Integer.digitValue?_eq_some_iff.mp (by decide)
    have huser : Zeros "0_".toList 1 := .underscored hzero .nothing
    have hgroup : Zeros "\u06600".toList 2 := .more harabic (.more hzero .nothing)
    have huserRoom : 1 + (asciiValues (Nat.toDigits 10 12)).length ≤ maxDigits := by decide
    have hgroupRoom : 2 + (asciiValues (Nat.toDigits 10 7)).length ≤ maxDigits := by decide
    exact hpadded (.ofInt 12 (hsmall (by decide))) (.ofInt 7 (hsmall (by decide)))
      huser huserRoom hgroup hgroupRoom
  · exact hcolons _ (by decide)

end SessionMounts.Owner
