import SessionMounts.Proofs.MountTool.Asking

/-!
How a dialogue uses up the output of a tool. A turn searches what has arrived and reads on until a prompt is
complete or the output ends, and the dialogue is turn after turn (`ofReads_eq_turn`). Each prompt takes at
least six characters from what is left, so the turns come to an end before they outnumber the text
(`afterTurns_of_enough`), and the texts of the turns, one after another, are the whole text
(`every_character_is_used_once`).
-/

namespace SessionMounts.MountTool

namespace Prompt

variable {prompt : Prompt} {text : List Char}

/-- No prompt that is complete begins before the one that is found. -/
theorem length_before_le {found : Found} {shown front back : List Char} (h : find? text = some found)
    (hshown : Shown prompt shown) (htext : text = front ++ (shown ++ back)) :
    found.before.length ≤ front.length := by
  fun_induction find? text generalizing found front with
  | case1 => cases h
  | case2 c rest other after hfront =>
      cases h
      exact Nat.zero_le _
  | case3 c rest hfront ih =>
      obtain ⟨inner, hinner, rfl⟩ := Option.map_eq_some_iff.mp h
      cases front with
      | nil =>
          have hsome := atFront?_eq_some_iff.mpr ⟨shown, hshown, htext⟩
          cases hfront.symm.trans hsome
      | cons d front =>
          apply Nat.succ_le_succ
          exact ih hinner (List.cons.inj htext).2

theorem shown_iff_eq {shown : List Char} (h : Shown prompt shown) (other : Prompt) :
    Shown other shown ↔ other = prompt := by
  constructor
  · exact fun hother => hother.prompt_eq h (Eq.refl (shown ++ []))
  · intro heq
    rw [heq]
    exact h

theorem six_le_length_shown {shown : List Char} (h : Shown prompt shown) : 6 ≤ shown.length := by
  have hfront := atFront?_eq_some_iff.mpr ⟨shown, h, (List.append_nil shown).symm⟩
  exact length_of_atFront? hfront

end Prompt

namespace Dialogue

/-- What a turn comes to: a prompt, with the state of the decoder and the reads to come, or the end of the
dialogue. -/
inductive Turn where
  | prompt (found : Prompt.Found) (pending : Utf8.Pending) (reads : List Read)
  | ended (rest : List Char)
  | broken (trouble : Trouble) (unread : Nat)

/-- Searches the text that has not been used, and reads on until there is a prompt or an end. -/
def turn (pending : Utf8.Pending) (buffer : List Char) (reads : List Read) : Turn :=
  match Prompt.find? buffer with
  | some found => .prompt found pending reads
  | none =>
    match reads with
    | [] => .ended buffer
    | .fault error :: rest => .broken (.system error) rest.length
    | .bytes piece :: rest =>
      match Utf8.decodeNext pending piece with
      | .error fault => .broken (.undecodable fault) rest.length
      | .ok (text, next) => turn next (buffer ++ text) rest

/-- The dialogue, if it is over after so many turns. -/
def afterTurns : (count : Nat) → Utf8.Pending → List Char → List Read → Option Dialogue
  | 0, _, _, _ => none
  | count + 1, pending, buffer, reads =>
    match turn pending buffer reads with
    | .prompt found next rest =>
      (afterTurns count next found.after rest).map
        (.prompt found.prompt found.before found.shown rest.length)
    | .ended rest => some (.ended rest)
    | .broken trouble unread => some (.broken trouble unread)

theorem ofReads_of_fault {pending : Utf8.Pending} {buffer : List Char}
    (hnone : Prompt.find? buffer = none) (error : SystemError) (rest : List Read) :
    ofReads pending buffer (.fault error :: rest) = .broken (.system error) rest.length := by
  rw [ofReads.eq_def]
  split
  · rename_i found hfound
    cases hnone.symm.trans hfound
  · rfl

theorem ofReads_of_undecodable {pending : Utf8.Pending} {buffer : List Char} {piece : List UInt8}
    {fault : Utf8.Fault} (hnone : Prompt.find? buffer = none)
    (hpiece : Utf8.decodeNext pending piece = .error fault) (rest : List Read) :
    ofReads pending buffer (.bytes piece :: rest) = .broken (.undecodable fault) rest.length := by
  rw [ofReads.eq_def]
  split
  · rename_i found hfound
    cases hnone.symm.trans hfound
  · simp only [hpiece]

/-- A dialogue is a turn, and after a prompt the dialogue of what is left. -/
theorem ofReads_eq_turn (pending : Utf8.Pending) (buffer : List Char) (reads : List Read) :
    ofReads pending buffer reads =
      match turn pending buffer reads with
      | .prompt found next rest =>
        .prompt found.prompt found.before found.shown rest.length (ofReads next found.after rest)
      | .ended rest => .ended rest
      | .broken trouble unread => .broken trouble unread := by
  fun_induction turn pending buffer reads with
  | case1 pending buffer reads found hfound => exact ofReads_of_found hfound
  | case2 pending buffer hnone => exact ofReads_of_none hnone
  | case3 pending buffer hnone error rest => exact ofReads_of_fault hnone error rest
  | case4 pending buffer hnone piece rest fault hpiece =>
      exact ofReads_of_undecodable hnone hpiece rest
  | case5 pending buffer hnone piece rest text next hpiece ih =>
      rw [ofReads_of_piece hnone hpiece]
      exact ih

/-- The turns make the dialogue. -/
theorem eq_ofReads_of_afterTurns {count : Nat} {pending : Utf8.Pending} {buffer : List Char}
    {reads : List Read} {dialogue : Dialogue}
    (h : afterTurns count pending buffer reads = some dialogue) :
    dialogue = ofReads pending buffer reads := by
  induction count generalizing pending buffer reads dialogue with
  | zero => cases h
  | succ count ih =>
      rw [afterTurns] at h
      rw [ofReads_eq_turn]
      cases hturn : turn pending buffer reads with
      | prompt found next rest =>
          simp only [hturn] at h ⊢
          obtain ⟨others, hothers, rfl⟩ := Option.map_eq_some_iff.mp h
          rw [ih hothers]
      | ended rest =>
          simp only [hturn] at h ⊢
          exact (Option.some.inj h).symm
      | broken trouble unread =>
          simp only [hturn] at h ⊢
          exact (Option.some.inj h).symm

variable {pending last : Utf8.Pending} {text : List Char} {pieces : List (List UInt8)}

/-- A turn on pieces that can be decoded: either it finds the first prompt of the text so far, and the text
from there on is left for the turns to come, or the whole text shows none. -/
theorem turn_of_feed (buffer : List Char)
    (hfeed : Utf8.feed pending 0 pieces.flatten = .ok (text, last)) :
    (∃ (arrived more : List Char) (found : Prompt.Found) (next : Utf8.Pending)
      (others : List (List UInt8)),
        turn pending buffer (pieces.map Read.bytes) = .prompt found next (others.map Read.bytes) ∧
        Prompt.find? arrived = some found ∧ buffer ++ text = arrived ++ more ∧
        Utf8.feed next 0 others.flatten = .ok (more, last)) ∨
      turn pending buffer (pieces.map Read.bytes) = .ended (buffer ++ text) ∧
        ¬Prompt.Occurs (buffer ++ text) := by
  induction pieces generalizing pending buffer text with
  | nil =>
      cases hfeed
      rw [List.append_nil, List.map_nil, turn.eq_def]
      cases hfind : Prompt.find? buffer with
      | some found => exact .inl ⟨buffer, [], found, _, [], rfl, hfind, (List.append_nil _).symm, rfl⟩
      | none => exact .inr ⟨rfl, Prompt.find?_eq_none_iff.mp hfind⟩
  | cons piece pieces ih =>
      rw [turn.eq_def]
      cases hfind : Prompt.find? buffer with
      | some found => exact .inl ⟨buffer, text, found, _, piece :: pieces, rfl, hfind, rfl, hfeed⟩
      | none =>
          obtain ⟨start, next, more, hpiece, rfl, hmore⟩ := exists_decodeNext_of_feed hfeed
          rw [← List.append_assoc]
          simp only [List.map_cons, hpiece]
          exact ih (buffer ++ start) hmore

/-- A prompt of a dialogue, with the text since the prompt before it. -/
structure Part where
  before : List Char
  kind : Prompt
  shown : List Char
  deriving DecidableEq, Repr

def parts : Dialogue → List Part
  | .prompt kind before shown _ next => ⟨before, kind, shown⟩ :: next.parts
  | .ended _ => []
  | .broken _ _ => []

/-- A part shows one prompt, and no prompt is complete before it. -/
structure Part.First (part : Part) : Prop where
  shown : Prompt.Shown part.kind part.shown
  earliest : ∀ (front inner back : List Char) (kind : Prompt),
    part.before ++ part.shown = front ++ inner ++ back → Prompt.Shown kind inner →
      part.before.length ≤ front.length

theorem first_of_find? {arrived : List Char} {found : Prompt.Found}
    (h : Prompt.find? arrived = some found) :
    Part.First ⟨found.before, found.prompt, found.shown⟩ where
  shown := (Prompt.shown_of_find? h).1
  earliest := by
    intro front inner back kind heq hinner
    have harrived : arrived = front ++ (inner ++ (back ++ found.after)) := by
      rw [(Prompt.shown_of_find? h).2, heq, List.append_assoc, List.append_assoc]
    exact Prompt.length_before_le h hinner harrived

/-- A dialogue goes through a text: its parts come first, and the rest shows no prompt. -/
inductive GoesThrough : Dialogue → List Char → Prop where
  | ended {rest : List Char} (quiet : ¬Prompt.Occurs rest) : GoesThrough (.ended rest) rest
  | prompt {kind : Prompt} {before shown rest : List Char} {next : Dialogue} (unread : Nat)
      (first : Part.First ⟨before, kind, shown⟩) (others : GoesThrough next rest) :
      GoesThrough (.prompt kind before shown unread next) (before ++ shown ++ rest)

/-- With one turn for every six characters, and one for the end, the dialogue gets over, and it goes through
the whole text. -/
theorem afterTurns_of_enough (count : Nat) (buffer : List Char)
    (hfeed : Utf8.feed pending 0 pieces.flatten = .ok (text, last))
    (henough : (buffer ++ text).length < 6 * count) :
    ∃ dialogue, afterTurns count pending buffer (pieces.map Read.bytes) = some dialogue ∧
      dialogue.GoesThrough (buffer ++ text) := by
  induction count generalizing pending buffer text pieces with
  | zero => cases henough
  | succ count ih =>
      rw [afterTurns]
      rcases turn_of_feed buffer hfeed with
        ⟨arrived, more, found, next, others, hturn, hfind, htext, hmore⟩ | ⟨hturn, hquiet⟩
      · have hfirst := first_of_find? hfind
        have harrived := (Prompt.shown_of_find? hfind).2
        have hsix : 6 ≤ found.shown.length := Prompt.six_le_length_shown hfirst.shown
        have hleft : (found.after ++ more).length < 6 * count := by
          simp only [htext, harrived, List.length_append] at henough ⊢
          omega
        obtain ⟨dialogue, hdialogue, hthrough⟩ := ih found.after hmore hleft
        rw [htext, harrived, List.append_assoc]
        refine ⟨_, ?_, .prompt (others.map Read.bytes).length hfirst hthrough⟩
        simp only [hturn, hdialogue, Option.map_some]
      · exact ⟨_, by simp only [hturn], .ended hquiet⟩

namespace GoesThrough

variable {dialogue : Dialogue}

theorem exists_rest (h : dialogue.GoesThrough text) :
    ∃ rest, dialogue.ending = .ok rest ∧
      text = (dialogue.parts.flatMap fun part => part.before ++ part.shown) ++ rest ∧
      ¬Prompt.Occurs rest := by
  induction h with
  | ended quiet => exact ⟨_, rfl, rfl, quiet⟩
  | prompt unread first others ih =>
      obtain ⟨rest, hending, htext, hquiet⟩ := ih
      refine ⟨rest, hending, ?_, hquiet⟩
      simp only [htext, parts, List.flatMap_cons, List.append_assoc]

theorem first (h : dialogue.GoesThrough text) : ∀ part ∈ dialogue.parts, part.First := by
  induction h with
  | ended quiet =>
      intro part hpart
      cases hpart
  | prompt unread first others ih =>
      rw [parts, List.forall_mem_cons]
      exact ⟨first, ih⟩

end GoesThrough

/-- Looking for prompts uses up the output of a tool without loss, and comes to an end. However a text is
cut into pieces, the turns are over after at most one for every six characters and one more. The texts before
the prompts, the prompts themselves and the text after the last one are, one after another, the whole text.
Each prompt is a complete one of the kind that is told, and of no other; no complete prompt begins
earlier in the text from the prompt before it up to its own end; and none is left after the last. -/
theorem every_character_is_used_once {kept : Utf8.Pending}
    (hfeed : Utf8.feed .nothing 0 pieces.flatten = .ok (text, kept)) :
    let reads := pieces.map Read.bytes
    let dialogue := ofOutput reads
    afterTurns (text.length / 6 + 1) .nothing [] reads = some dialogue ∧
    (∃ rest, dialogue.ending = .ok rest ∧
      text = (dialogue.parts.flatMap fun part => part.before ++ part.shown) ++ rest ∧
      ¬Prompt.Occurs rest) ∧
    ∀ part ∈ dialogue.parts, (∀ kind, Prompt.Shown kind part.shown ↔ kind = part.kind) ∧
      ∀ (front inner back : List Char) (kind : Prompt),
        part.before ++ part.shown = front ++ inner ++ back → Prompt.Shown kind inner →
          part.before.length ≤ front.length := by
  intro reads dialogue
  obtain ⟨whole, hwhole, hthrough⟩ := afterTurns_of_enough (text.length / 6 + 1) [] hfeed
    (by rw [List.nil_append]; omega)
  obtain rfl : whole = dialogue := eq_ofReads_of_afterTurns hwhole
  refine ⟨hwhole, hthrough.exists_rest, ?_⟩
  intro part hpart
  have hfirst := hthrough.first part hpart
  exact ⟨Prompt.shown_iff_eq hfirst.shown, hfirst.earliest⟩

/-- An output in pieces: the default of the first prompt begins with the words of another and is cut off after
them, and each of the other prompts is cut in two. -/
def straddling : List (List UInt8) :=
  ["Hello\nUser [Password: ", "]: Domain [x\ny", "]: Pass", "word: bye"].map fun piece =>
    Utf8.encode piece.toList

/-- The words in the default are found before the prompt around them is complete, and what follows them
belongs to the text before the next prompt. -/
theorem straddling_output_is_used_up :
    let text := "Hello\nUser [Password: ]: Domain [x\ny]: Password: bye".toList
    let dialogue := ofOutput (straddling.map Read.bytes)
    Utf8.feed .nothing 0 straddling.flatten = .ok (text, .nothing) ∧
      afterTurns 9 .nothing [] (straddling.map Read.bytes) = some dialogue ∧
      dialogue.parts = [⟨"Hello\nUser [".toList, .password, "Password: ".toList⟩,
        ⟨"]: ".toList, .domain, "Domain [x\ny]: ".toList⟩, ⟨[], .password, "Password: ".toList⟩] ∧
      dialogue.ending = .ok "bye".toList := by
  intro text dialogue
  have hwhole : straddling.flatten = Utf8.encode text := by decide +kernel
  have hfeed : Utf8.feed .nothing 0 straddling.flatten = .ok (text, .nothing) := by
    rw [hwhole]
    exact Utf8.feed_encode text 0
  obtain ⟨hturns, ⟨rest, hending, htext, -⟩, -⟩ := every_character_is_used_once hfeed
  have hnine : text.length / 6 + 1 = 9 := by decide
  rw [hnine] at hturns
  have hparts : (afterTurns 9 .nothing [] (straddling.map Read.bytes)).map parts =
      some [⟨"Hello\nUser [".toList, .password, "Password: ".toList⟩,
        ⟨"]: ".toList, .domain, "Domain [x\ny]: ".toList⟩, ⟨[], .password, "Password: ".toList⟩] := by
    decide +kernel
  rw [hturns, Option.map_some, Option.some.injEq] at hparts
  rw [hparts] at htext
  have hrest : "bye".toList = rest :=
    List.append_cancel_left ((show _ ++ "bye".toList = text by decide +kernel).trans htext)
  rw [← hrest] at hending
  exact ⟨hfeed, hturns, hparts, hending⟩

end Dialogue

end SessionMounts.MountTool
