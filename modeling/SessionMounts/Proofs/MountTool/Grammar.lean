import Mathlib.Data.Fintype.Basic
import Mathlib.Data.List.Basic
import SessionMounts.MountTool.Dialogue

/-!
The prompts as a grammar. A prompt is shown bare or with a default in brackets, and the readers
accept exactly these texts (`atFront?_eq_some_iff`). A prompt that begins inside another and ends
before its end lies in the other's default and is bare (`Shown.within`): elsewhere no letter begins a
prompt, and a second bracket would end the first.
-/

namespace SessionMounts.MountTool.Prompt

instance promptFintype : Fintype Prompt where
  elems := {.user, .domain, .password}
  complete := by
    intro prompt
    cases prompt <;> decide

/-- A prompt without a default. -/
def bare (prompt : Prompt) : List Char :=
  prompt.word ++ [':', ' ']

/-- The beginning of a prompt with a default. -/
def opening (prompt : Prompt) : List Char :=
  prompt.word ++ [' ', '[']

/-- The texts by which a prompt is shown. -/
inductive Shown (prompt : Prompt) : List Char → Prop where
  | bare : Shown prompt prompt.bare
  | offering (offers : prompt.mayOffer = true) (content : List Char) (closed : ']' ∉ content) :
      Shown prompt (prompt.opening ++ content ++ [']', ':', ' '])

theorem after?_eq_some_iff {beginning text rest : List Char} :
    after? beginning text = some rest ↔ text = beginning ++ rest := by
  fun_induction after? beginning text with
  | case1 text => simp only [Option.some.injEq, List.nil_append]
  | case2 => simp only [List.cons_append, reduceCtorEq]
  | case3 beginning d text ih => simp only [ih, List.cons_append, List.cons.injEq, true_and]
  | case4 c beginning d text hne =>
      simp only [List.cons_append, List.cons.injEq, reduceCtorEq, false_iff, not_and]
      intro heq
      exact absurd heq.symm hne

@[simp] theorem after?_append (beginning rest : List Char) :
    after? beginning (beginning ++ rest) = some rest :=
  after?_eq_some_iff.mpr rfl

theorem afterBracket?_eq_some_iff {text rest : List Char} :
    afterBracket? text = some rest ↔ ∃ content, ']' ∉ content ∧ text = content ++ ']' :: rest := by
  fun_induction afterBracket? text with
  | case1 =>
      refine iff_of_false (by rintro ⟨⟩) ?_
      rintro ⟨content, -, h⟩
      cases content <;> cases h
  | case2 tail =>
      constructor
      · intro h
        exact ⟨[], List.not_mem_nil, by rw [Option.some.inj h]; rfl⟩
      · rintro ⟨content, hclosed, h⟩
        cases content with
        | nil => rw [(List.cons.inj h).2]
        | cons d content => exact absurd (.inl (List.cons.inj h).1) (List.mem_cons.not.mp hclosed)
  | case3 c tail hne ih =>
      rw [ih]
      constructor
      · rintro ⟨content, hclosed, rfl⟩
        exact ⟨c :: content, List.not_mem_cons_of_ne_of_not_mem (Ne.symm hne) hclosed, rfl⟩
      · rintro ⟨content, hclosed, h⟩
        cases content with
        | nil => exact absurd (List.cons.inj h).1 hne
        | cons d content =>
            exact ⟨content, fun hmem => hclosed (List.mem_cons_of_mem d hmem), (List.cons.inj h).2⟩

/-- The reader of a prompt accepts the texts by which the prompt is shown, with anything after them. -/
theorem rest?_eq_some_iff {prompt : Prompt} {text rest : List Char} :
    prompt.rest? text = some rest ↔ ∃ shown, Shown prompt shown ∧ text = shown ++ rest := by
  constructor
  · intro h
    unfold rest? at h
    split at h
    · cases h
    · rename_i tail hword
      have htext := after?_eq_some_iff.mp hword
      split at h
      · have hcolon := after?_eq_some_iff.mp h
        exact ⟨_, .bare, by rw [htext, hcolon, bare, List.append_assoc]⟩
      · rename_i offer hoffer
        obtain ⟨inner, hbracket, hcolon⟩ := Option.bind_eq_some_iff.mp h
        obtain ⟨content, hclosed, hinner⟩ := afterBracket?_eq_some_iff.mp hbracket
        have hend := after?_eq_some_iff.mp hcolon
        split at hoffer
        · have htail := after?_eq_some_iff.mp hoffer
          refine ⟨_, .offering ‹_› content hclosed, ?_⟩
          simp only [htext, htail, hinner, hend, opening, List.append_assoc, List.cons_append,
            List.nil_append]
        · cases hoffer
  · rintro ⟨shown, hshown, rfl⟩
    unfold rest?
    cases hshown with
    | bare =>
        have hnone : (if prompt.mayOffer then after? [' ', '['] ([':', ' '] ++ rest) else none) =
            none := by
          split <;> rfl
        simp only [bare, List.append_assoc, after?_append, hnone]
        rfl
    | offering hoffers content hclosed =>
        have hbracket : afterBracket? (content ++ ([']', ':', ' '] ++ rest)) =
            some ([':', ' '] ++ rest) := afterBracket?_eq_some_iff.mpr ⟨content, hclosed, rfl⟩
        simp only [opening, List.append_assoc, after?_append, hoffers, if_true, hbracket,
          Option.bind_some]
        rfl

/-- The letter that a prompt begins with. -/
def initial : Prompt → Char
  | .user => 'U'
  | .domain => 'D'
  | .password => 'P'

theorem initial_injective {prompt other : Prompt} (h : prompt.initial = other.initial) :
    prompt = other := by
  revert prompt other
  decide

theorem initial_notMem_tail (prompt other : Prompt) :
    prompt.initial ∉ other.bare.tail ∧ prompt.initial ∉ other.opening.tail := by
  revert prompt other
  decide

theorem bracket_notMem (prompt : Prompt) : ']' ∉ prompt.bare ∧ ']' ∉ prompt.opening := by
  revert prompt
  decide

/-- The bracket that ends a default is the only one. -/
theorem eq_of_bracket {prompt : Prompt} {content before after : List Char} (hclosed : ']' ∉ content)
    (h : prompt.opening ++ content ++ [']', ':', ' '] = before ++ ']' :: after) :
    prompt.opening ++ content = before ∧ [':', ' '] = after := by
  have hopen : ']' ∉ prompt.opening ++ content :=
    List.mem_append.not.mpr (not_or.mpr ⟨(bracket_notMem prompt).2, hclosed⟩)
  obtain ⟨hbefore, -, hafter⟩ := (List.append_cons_inj_of_notMem hopen (by decide)).mp h
  exact ⟨hbefore, hafter⟩

/-- After the first letter of a prompt with a default, another prompt can begin only in the default. -/
theorem bare_infix_of_opening {prompt other : Prompt} {content front back : List Char}
    (hfront : front ≠ []) (h : prompt.opening ++ content = front ++ (other.bare ++ back)) :
    other.bare <:+: content := by
  rcases List.append_eq_append_iff.mp h with ⟨before, -, hcontent⟩ | ⟨letters, hopening, hbare⟩
  · exact ⟨before, back, by rw [hcontent, List.append_assoc]⟩
  · cases letters with
    | nil => exact ⟨[], back, by rw [List.nil_append] at hbare ⊢; exact hbare⟩
    | cons letter letters =>
        obtain ⟨first, rest, rfl⟩ := List.exists_cons_of_ne_nil hfront
        have hletter : letter = other.initial := by
          have hhead := congrArg List.head? hbare
          cases other <;> exact (Option.some.inj hhead).symm
        refine absurd ?_ (initial_notMem_tail other prompt).2
        rw [hopening, ← hletter]
        simp

namespace Shown

variable {prompt other : Prompt} {shown : List Char}

theorem exists_eq_initial_cons (h : Shown prompt shown) :
    ∃ rest, shown = prompt.initial :: rest := by
  cases h with
  | bare => cases prompt <;> exact ⟨_, rfl⟩
  | offering => cases prompt <;> exact ⟨_, rfl⟩

/-- Where one prompt is shown, no other is. -/
theorem prompt_eq {rest shown' rest' : List Char} (h : Shown prompt shown)
    (h' : Shown other shown') (heq : shown ++ rest = shown' ++ rest') : prompt = other := by
  obtain ⟨tail, rfl⟩ := h.exists_eq_initial_cons
  obtain ⟨tail', rfl⟩ := h'.exists_eq_initial_cons
  exact initial_injective (List.cons.inj heq).1

/-- A prompt inside another, before its end, is bare and lies in the other's default. -/
theorem within {front inner back : List Char} (h : Shown prompt shown) (hinner : Shown other inner)
    (heq : shown = front ++ inner ++ back) (hfront : front ≠ []) (hback : back ≠ []) :
    prompt.mayOffer = true ∧ ∃ content, ']' ∉ content ∧
      shown = prompt.opening ++ content ++ [']', ':', ' '] ∧ other.bare <:+: content := by
  obtain ⟨first, rest, rfl⟩ := List.exists_cons_of_ne_nil hfront
  obtain ⟨letters, hletters⟩ := hinner.exists_eq_initial_cons
  cases h with
  | bare =>
      have htail : prompt.bare.tail = rest ++ inner ++ back := by rw [heq]; rfl
      refine absurd ?_ (initial_notMem_tail other prompt).1
      rw [htail, hletters]
      simp
  | offering hoffers content hclosed =>
      refine ⟨hoffers, content, hclosed, rfl, ?_⟩
      cases hinner with
      | offering _ content' _ =>
          -- The two prompts would share the only bracket, and with it their end.
          have hshared : prompt.opening ++ content ++ [']', ':', ' '] =
              (first :: rest ++ other.opening ++ content') ++ ']' :: ([':', ' '] ++ back) := by
            rw [heq]
            simp only [List.append_assoc, List.cons_append, List.nil_append]
          have hend := (eq_of_bracket hclosed hshared).2
          exact absurd (List.append_right_eq_self.mp hend.symm) hback
      | bare =>
          have hmem : ']' ∈ first :: rest ++ other.bare ++ back := by
            rw [← heq]
            simp
          rw [List.mem_append, List.mem_append] at hmem
          rcases hmem with (hmem | hmem) | hmem
          · obtain ⟨before, after, hbefore⟩ := List.append_of_mem hmem
            have hsplit : prompt.opening ++ content ++ [']', ':', ' '] =
                before ++ ']' :: (after ++ other.bare ++ back) := by
              rw [heq, hbefore]
              simp only [List.append_assoc, List.cons_append]
            have hlength := congrArg List.length (eq_of_bracket hclosed hsplit).2
            have hbare : 6 ≤ other.bare.length := by cases other <;> decide
            simp only [List.length_append, List.length_cons, List.length_nil] at hlength
            omega
          · exact absurd hmem (bracket_notMem other).1
          · obtain ⟨before, after, hafter⟩ := List.append_of_mem hmem
            have hsplit : prompt.opening ++ content ++ [']', ':', ' '] =
                (first :: rest ++ (other.bare ++ before)) ++ ']' :: after := by
              rw [heq, hafter]
              simp only [List.append_assoc]
            exact bare_infix_of_opening hfront (eq_of_bracket hclosed hsplit).1

end Shown

theorem rest?_eq_none_of_ne {prompt other : Prompt} {shown : List Char} (h : Shown prompt shown)
    (hne : other ≠ prompt) (rest : List Char) : other.rest? (shown ++ rest) = none := by
  refine Option.eq_none_iff_forall_ne_some.mpr fun rest' hrest => ?_
  obtain ⟨shown', h', heq⟩ := rest?_eq_some_iff.mp hrest
  exact hne (h'.prompt_eq h heq.symm)

/-- The reader at the front of a text accepts a prompt exactly where one is shown. -/
theorem atFront?_eq_some_iff {prompt : Prompt} {text rest : List Char} :
    atFront? text = some (prompt, rest) ↔ ∃ shown, Shown prompt shown ∧ text = shown ++ rest := by
  rw [← rest?_eq_some_iff]
  constructor
  · intro h
    unfold atFront? at h
    split at h <;> cases h <;> assumption
  · intro h
    obtain ⟨shown, hshown, rfl⟩ := rest?_eq_some_iff.mp h
    have hother : ∀ other ≠ prompt, other.rest? (shown ++ rest) = none :=
      fun other hne => rest?_eq_none_of_ne hshown hne rest
    unfold atFront?
    cases prompt with
    | user => rw [h]
    | domain => rw [hother .user (by decide), h]
    | password => rw [hother .user (by decide), hother .domain (by decide), h]

/-- What is found is a prompt that is shown in the text. -/
theorem shown_of_find? {text : List Char} {found : Found} (h : find? text = some found) :
    Shown found.prompt found.shown ∧ text = found.before ++ found.shown ++ found.after := by
  fun_induction find? text generalizing found with
  | case1 => cases h
  | case2 c rest prompt after hfront =>
      cases h
      obtain ⟨shown, hshown, htext⟩ := atFront?_eq_some_iff.mp hfront
      rw [htext]
      simpa using hshown
  | case3 c rest hfront ih =>
      obtain ⟨inner, hinner, rfl⟩ := Option.map_eq_some_iff.mp h
      obtain ⟨hshown, htext⟩ := ih hinner
      exact ⟨hshown, by rw [htext]; rfl⟩

end SessionMounts.MountTool.Prompt
