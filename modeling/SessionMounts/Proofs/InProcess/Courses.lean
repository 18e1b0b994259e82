import Mathlib.Data.Int.Bitwise
import Mathlib.Data.List.Basic
import Mathlib.Data.List.Nodup
import SessionMounts.InProcess.Loop

/-!
Which course an operation takes, and what is made of what the library says. Courses are prepared in a list
for each location, and each operation takes the next one of its own location; so the course of an entry
is found by counting the entries before it that name the same location (`courseAt`), and operations on
other locations do not matter.
-/

namespace SessionMounts

namespace Prepared

variable {α : Type} {name other : String} {item : α} {prepared left : Prepared α}

/-- The items still prepared under a name. -/
def under (name : String) : Prepared α → List α
  | [] => []
  | (other, items) :: rest => if other = name then items else under name rest

theorem under_of_take?_eq_none (h : prepared.take? name = none) : prepared.under name = [] := by
  induction prepared with
  | nil => rfl
  | cons group rest ih =>
      obtain ⟨label, items⟩ := group
      unfold take? at h
      rw [under]
      by_cases hlabel : label = name
      · rw [if_pos hlabel] at h ⊢
        cases items with
        | nil => rfl
        | cons item items => cases h
      · rw [if_neg hlabel] at h ⊢
        exact ih (Option.map_eq_none_iff.mp h)

/-- Taking an item takes the first one under its name and leaves all others. -/
theorem under_of_take?_eq_some (h : prepared.take? name = some (item, left)) :
    prepared.under name = item :: left.under name ∧
      ∀ other, other ≠ name → left.under other = prepared.under other := by
  induction prepared generalizing left with
  | nil => cases h
  | cons group rest ih =>
      obtain ⟨label, items⟩ := group
      unfold take? at h
      by_cases hlabel : label = name
      · rw [if_pos hlabel] at h
        cases items with
        | nil => cases h
        | cons first items =>
            cases h
            subst hlabel
            refine ⟨by rw [under, under, if_pos rfl, if_pos rfl], ?_⟩
            intro other hother
            rw [under, under, if_neg hother.symm, if_neg hother.symm]
      · rw [if_neg hlabel] at h
        obtain ⟨⟨taken, rest'⟩, htake, hleft⟩ := Option.map_eq_some_iff.mp h
        cases hleft
        obtain ⟨hfirst, hothers⟩ := ih htake
        refine ⟨by rw [under, under, if_neg hlabel, if_neg hlabel, hfirst], ?_⟩
        intro other hother
        rw [under, under, hothers other hother]

end Prepared

namespace InProcess.State

variable (library : State)

theorem next_fst (location : String) :
    (library.next location).1 = (library.courses.under location)[0]?.getD {} := by
  rw [next]
  cases htake : library.courses.take? location with
  | none =>
      rw [Prepared.under_of_take?_eq_none htake]
      rfl
  | some taken =>
      obtain ⟨course, courses⟩ := taken
      rw [(Prepared.under_of_take?_eq_some htake).1]
      rfl

theorem under_next (location other : String) :
    (library.next location).2.courses.under other =
      if location = other then (library.courses.under other).drop 1
      else library.courses.under other := by
  by_cases hsame : location = other
  · subst hsame
    rw [next, if_pos rfl]
    cases htake : library.courses.take? location with
    | none =>
        rw [Prepared.under_of_take?_eq_none htake]
        rfl
    | some taken =>
        rw [(Prepared.under_of_take?_eq_some htake).1]
        rfl
  · rw [next, if_neg hsame]
    cases htake : library.courses.take? location with
    | none => rfl
    | some taken => exact (Prepared.under_of_take?_eq_some htake).2 other (Ne.symm hsame)

theorem operations_next (location : String) :
    (library.next location).2.operations = library.operations := by
  rw [next]
  cases library.courses.take? location <;> rfl

/-- How many entries name a location. -/
def uses (location : String) (entries : List Entry) : Nat :=
  entries.countP fun entry => entry.location = location

/-- The course of the operation for the entry with a number: of the courses that are prepared for
its location, those before it are taken by earlier entries. An operation without a prepared course asks
nothing and succeeds. -/
def courseAt (entries : List Entry) (number : Nat) : Course :=
  match entries[number]? with
  | none => {}
  | some entry =>
    (library.courses.under entry.location)[uses entry.location (entries.take number)]?.getD {}

/-- What a library has left when operations for some entries have taken their courses. -/
def Left (entries : List Entry) (left : State) : Prop :=
  ∀ location, left.courses.under location =
    (library.courses.under location).drop (uses location entries)

theorem Left.start : library.Left [] library := fun _ => rfl

variable {library} {left : State} {entries : List Entry} {number : Nat} {entry : Entry}

/-- The next operation takes the course of its entry, and the others keep theirs. -/
theorem Left.next (h : library.Left (entries.take number) left)
    (hentry : entries[number]? = some entry) :
    (left.next entry.location).1 = library.courseAt entries number ∧
      library.Left (entries.take (number + 1)) (left.next entry.location).2 := by
  constructor
  · rw [next_fst, h, courseAt, hentry, List.getElem?_drop, Nat.add_zero]
  · intro location
    rw [under_next, h, List.take_add_one, hentry, uses, uses, List.countP_append]
    by_cases hsame : entry.location = location
    · rw [if_pos hsame, List.drop_drop]
      simp [hsame]
    · rw [if_neg hsame]
      simp [hsame]

end InProcess.State

/-! ### Questions and errors of the library

A question becomes a challenge that offers anonymous access if the fifth bit of its flags is set, for
negative flags too. An error keeps its message; its kind is its name among the input and output errors,
and only one of them is the error of a location that was mounted before
(`Error.kind_eq_alreadyMounted_iff`): the same code in another domain is not. -/

namespace InProcess

open Mounting (Failure)

/-- The bit is that of the two's complement. -/
theorem Question.offersAnonymous_eq (question : Question) :
    question.offersAnonymous = question.flags.testBit 4 := by
  rw [offersAnonymous, Bool.eq_iff_iff, beq_iff_eq]
  cases question.flags with
  | ofNat flags =>
      rw [Int.testBit, Nat.testBit_eq_decide_div_mod_eq, decide_eq_true_eq]
      simp only [Int.ofNat_eq_natCast]
      omega
  | negSucc flags =>
      rw [Int.testBit, Nat.testBit_eq_decide_div_mod_eq, Bool.not_eq_true', decide_eq_false_iff_not]
      omega

namespace Error

variable {error : Error}

theorem length_errorNames : errorNames.length = 49 := rfl

/-- An input and output error whose code has a name. -/
def Named (error : Error) : Prop :=
  error.domain = ioDomain ∧ 0 ≤ error.code ∧ error.code ≤ 48

theorem kind_of_named (h : error.Named) : errorNames[error.code.toNat]? = some error.kind := by
  obtain ⟨hdomain, hfrom, hto⟩ := h
  have hlt : error.code.toNat < errorNames.length := by
    rw [length_errorNames]
    omega
  rw [kind, if_pos ⟨hdomain, hfrom⟩, List.getElem?_eq_getElem hlt, Option.getD_some]

theorem kind_of_not_named (h : ¬error.Named) : error.kind = Failure.failed := by
  rw [kind]
  split
  · rename_i hknown
    have hbeyond : errorNames.length ≤ error.code.toNat := by
      by_contra hwithin
      rw [length_errorNames] at hwithin
      exact h ⟨hknown.1, hknown.2, by omega⟩
    rw [List.getElem?_eq_none hbeyond, Option.getD_none]
  · rfl

/-- The error of a location that was mounted before. -/
def AlreadyMounted (error : Error) : Prop :=
  error.domain = ioDomain ∧ error.code = 17

theorem kind_eq_alreadyMounted_iff :
    error.kind = Failure.alreadyMounted ↔ error.AlreadyMounted := by
  have hname : errorNames[17]? = some Failure.alreadyMounted := rfl
  constructor
  · intro hkind
    by_cases hnamed : error.Named
    · have hcode := kind_of_named hnamed
      rw [hkind, ← hname] at hcode
      obtain ⟨hdomain, hfrom, hto⟩ := hnamed
      have hlt : error.code.toNat < errorNames.length := by
        rw [length_errorNames]
        omega
      have hsame := (List.getElem?_inj hlt (by decide +kernel)).mp hcode
      exact ⟨hdomain, by omega⟩
    · rw [kind_of_not_named hnamed] at hkind
      exact absurd hkind (by decide)
  · rintro ⟨hdomain, hcode⟩
    have hnamed : error.Named := ⟨hdomain, by omega, by omega⟩
    have hkind := kind_of_named hnamed
    rw [hcode] at hkind
    exact (Option.some.inj (hname.symm.trans hkind)).symm

end Error

end InProcess

end SessionMounts
