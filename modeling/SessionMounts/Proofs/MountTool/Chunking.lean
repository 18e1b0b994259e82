import Mathlib.Data.List.Infix
import SessionMounts.Proofs.MountTool.Grammar
import SessionMounts.Proofs.MountTool.Worker

/-!
Mounting by a tool does not depend on how the tool's output is cut into pieces. The search runs on
what has arrived so far, and the first complete prompt of that is the first one of the whole text,
unless an earlier prompt is still incomplete and has the found one in its default. In a text where
this cannot happen (`Unambiguous`), the dialogue of any pieces is the dialogue of the whole text, up
to the number of reads to come; and the interview uses that number only to note it.
-/

namespace SessionMounts.MountTool

open Mounting

namespace Prompt

/-- Between the beginning of a prompt with a default and the next closing bracket, or the end if there
is none, stands no prompt without a default. -/
def Unambiguous (text : List Char) : Prop :=
  ∀ tail ∈ text.tails, ∀ outer : Prompt, outer.mayOffer = true → outer.opening <+: tail →
    ∀ inner : Prompt,
      ¬inner.bare <:+: (tail.drop outer.opening.length).takeWhile fun c => c ≠ ']'

instance (text : List Char) : Decidable (Unambiguous text) :=
  inferInstanceAs (Decidable (∀ tail ∈ text.tails, ∀ outer : Prompt, outer.mayOffer = true →
    outer.opening <+: tail → ∀ inner : Prompt,
      ¬inner.bare <:+: (tail.drop outer.opening.length).takeWhile fun c => c ≠ ']'))

namespace Unambiguous

variable {text rest : List Char}

theorem of_append {front : List Char} (h : Unambiguous (front ++ rest)) : Unambiguous rest := by
  intro tail htail
  refine h tail ((List.mem_tails ..).mpr ?_)
  exact ((List.mem_tails ..).mp htail).trans (List.suffix_append front rest)

theorem not_bare_infix {outer inner : Prompt} {content : List Char} (hoffers : outer.mayOffer = true)
    (hclosed : ']' ∉ content) (h : Unambiguous (outer.opening ++ content ++ ']' :: rest)) :
    ¬inner.bare <:+: content := by
  rw [List.append_assoc] at h
  have hcontent : (content ++ ']' :: rest).takeWhile (fun c => c ≠ ']') = content := by
    rw [List.takeWhile_append_of_pos, List.takeWhile_cons_of_neg, List.append_nil]
    · simp
    · intro c hc
      refine decide_eq_true ?_
      rintro rfl
      exact hclosed hc
  have hinner := h _ ((List.mem_tails ..).mpr (List.suffix_refl _)) outer hoffers
    (List.prefix_append ..) inner
  rwa [List.drop_left, hcontent] at hinner

end Unambiguous

theorem find?_of_shown {prompt : Prompt} {shown : List Char} (h : Shown prompt shown)
    (rest : List Char) : find? (shown ++ rest) = some ⟨[], prompt, shown, rest⟩ := by
  have hfront : atFront? (shown ++ rest) = some (prompt, rest) :=
    atFront?_eq_some_iff.mpr ⟨shown, h, rfl⟩
  have htake : (shown ++ rest).take ((shown ++ rest).length - rest.length) = shown := by
    rw [List.length_append, Nat.add_sub_cancel, List.take_left]
  obtain ⟨letters, rfl⟩ := h.exists_eq_initial_cons
  rw [List.cons_append] at hfront htake ⊢
  rw [find?, hfront]
  simp only [htake]

/-- A prompt that begins earlier than one that has been found is not completed later. -/
theorem atFront?_append_eq_none {text more : List Char} {found : Found} {c : Char}
    (hfront : atFront? (c :: text) = none) (hfound : find? text = some found)
    (hclear : Unambiguous (c :: text ++ more)) : atFront? (c :: text ++ more) = none := by
  refine Option.eq_none_iff_forall_ne_some.mpr ?_
  rintro ⟨prompt, after⟩ hsome
  obtain ⟨shown, hshown, htext⟩ := atFront?_eq_some_iff.mp hsome
  have hlonger : ∀ rest, c :: text ≠ shown ++ rest := by
    intro rest hrest
    rw [atFront?_eq_some_iff.mpr ⟨shown, hshown, hrest⟩] at hfront
    cases hfront
  rcases List.append_eq_append_iff.mp htext with ⟨tail, htail, -⟩ | ⟨rest, hrest, -⟩
  · obtain ⟨hinner, hparts⟩ := shown_of_find? hfound
    have hback : found.after ++ tail ≠ [] := by
      intro hnil
      refine hlonger [] ?_
      rw [htail, (List.append_eq_nil_iff.mp hnil).2]
      simp only [List.append_nil]
    have hsplit : shown = (c :: found.before) ++ found.shown ++ (found.after ++ tail) := by
      rw [htail, hparts]
      simp only [List.append_assoc, List.cons_append]
    obtain ⟨hoffers, content, hclosed, hshape, hwithin⟩ :=
      hshown.within hinner hsplit (List.cons_ne_nil c found.before) hback
    rw [htext, hshape, List.append_assoc] at hclear
    exact hclear.not_bare_infix hoffers hclosed hwithin
  · exact hlonger rest hrest

/-- The first prompt of a text stays the first one when more arrives. -/
theorem find?_append {text more : List Char} {found : Found} (h : find? text = some found)
    (hclear : Unambiguous (text ++ more)) :
    find? (text ++ more) = some { found with after := found.after ++ more } := by
  fun_induction find? text generalizing found with
  | case1 => cases h
  | case2 c rest prompt after hfront =>
      obtain ⟨shown, hshown, htext⟩ := atFront?_eq_some_iff.mp hfront
      cases h
      rw [htext, List.append_assoc, find?_of_shown hshown]
      simp
  | case3 c rest hfront ih =>
      obtain ⟨inner, hinner, rfl⟩ := Option.map_eq_some_iff.mp h
      have hnone := atFront?_append_eq_none hfront hinner hclear
      have hrest : Unambiguous (rest ++ more) :=
        Unambiguous.of_append (show Unambiguous ([c] ++ (rest ++ more)) from hclear)
      rw [List.cons_append] at hnone ⊢
      rw [find?, hnone, ih hinner hrest]
      rfl

-- In an ambiguous text the prompt found first can turn out to be another one's default.
example : (find? "User [Password: ".toList).map Found.prompt = some .password ∧
    (find? "User [Password: ]: ".toList).map Found.prompt = some .user := by decide

end Prompt

/-- When bytes can be decoded, so can those after any of them. -/
theorem exists_feed_of_append {pending next last : Utf8.Pending} {position : Nat}
    {front back : List UInt8} {text start : List Char}
    (hall : Utf8.feed pending 0 (front ++ back) = .ok (text, last))
    (hfront : Utf8.feed pending position front = .ok (start, next)) :
    ∃ more, text = start ++ more ∧ Utf8.feed next 0 back = .ok (more, last) := by
  rw [Utf8.feed_append, Utf8.feed_eq_ok_of_position hfront 0] at hall
  cases hback : Utf8.feed next (0 + front.length) back with
  | error fault =>
      simp only [hback] at hall
      cases hall
  | ok decoded =>
      obtain ⟨more, _⟩ := decoded
      simp only [hback] at hall
      cases hall
      exact ⟨more, rfl, Utf8.feed_eq_ok_of_position hback 0⟩

namespace Dialogue

/-- A dialogue without the numbers of reads still to come. -/
def forget : Dialogue → Dialogue
  | .prompt kind before shown _ next => .prompt kind before shown 0 next.forget
  | .ended before => .ended before
  | .broken trouble _ => .broken trouble 0

theorem ofReads_of_found {pending : Utf8.Pending} {buffer : List Char} {reads : List Read}
    {found : Prompt.Found} (h : Prompt.find? buffer = some found) :
    ofReads pending buffer reads = .prompt found.prompt found.before found.shown reads.length
      (ofReads pending found.after reads) := by
  rw [ofReads.eq_def]
  split
  · rename_i other hother
    rw [h] at hother
    cases hother
    rfl
  · rename_i hnone
    rw [h] at hnone
    cases hnone

theorem ofReads_of_none {pending : Utf8.Pending} {buffer : List Char}
    (h : Prompt.find? buffer = none) : ofReads pending buffer [] = .ended buffer := by
  rw [ofReads.eq_def]
  split
  · rename_i found hfound
    rw [h] at hfound
    cases hfound
  · rfl

/-- The dialogue of pieces that are decoded to a text is the one of the text as a whole. -/
theorem forget_ofReads {pending last : Utf8.Pending} {buffer text : List Char}
    {pieces : List (List UInt8)} (hfeed : Utf8.feed pending 0 pieces.flatten = .ok (text, last))
    (hclear : Prompt.Unambiguous (buffer ++ text)) :
    (ofReads pending buffer (pieces.map Read.bytes)).forget =
      (ofReads .nothing (buffer ++ text) []).forget := by
  generalize hreads : pieces.map Read.bytes = reads
  fun_induction ofReads pending buffer reads generalizing pieces text with
  | case1 pending buffer reads found hfound ih =>
      have hwhole := Prompt.find?_append hfound hclear
      obtain ⟨-, hparts⟩ := Prompt.shown_of_find? hfound
      rw [hparts, List.append_assoc] at hclear
      rw [ofReads_of_found hwhole, forget, forget, ih hfeed hclear.of_append hreads]
  | case2 pending buffer hnone =>
      cases pieces with
      | cons piece pieces => cases hreads
      | nil =>
          cases hfeed
          rw [List.append_nil, ofReads_of_none hnone]
  | case3 pending buffer hnone error rest =>
      cases pieces <;> cases hreads
  | case4 pending buffer hnone piece rest fault hpiece =>
      cases pieces with
      | nil => cases hreads
      | cons _ pieces =>
          cases hreads
          obtain ⟨fault, hfault⟩ := Utf8.undecodable_append_of_error hpiece pieces.flatten
          cases hfault.symm.trans hfeed
  | case5 pending buffer hnone piece rest start next hpiece ih =>
      cases pieces with
      | nil => cases hreads
      | cons _ pieces =>
          cases hreads
          obtain ⟨more, rfl, hmore⟩ := exists_feed_of_append hfeed hpiece
          rw [← List.append_assoc] at hclear ⊢
          exact ih hmore hclear rfl

@[simp] theorem ending_forget (dialogue : Dialogue) : dialogue.forget.ending = dialogue.ending := by
  induction dialogue with
  | prompt kind before shown unread next ih => exact ih
  | ended before => rfl
  | broken trouble unread => rfl

/-- Without further reads there is no trouble. -/
theorem exists_ending_eq_ok (pending : Utf8.Pending) (buffer : List Char) :
    ∃ output, (ofReads pending buffer []).ending = .ok output := by
  generalize hreads : ([] : List Read) = reads
  fun_induction ofReads pending buffer reads with
  | case1 pending buffer reads found hfound ih => exact ih hreads
  | case2 pending buffer hnone => exact ⟨buffer, rfl⟩
  | case3 => cases hreads
  | case4 => cases hreads
  | case5 => cases hreads

/-- Two ways of cutting a text give the same dialogue, and one without trouble. -/
theorem forget_ofOutput {pieces : List (List UInt8)} {text : List Char}
    (htext : Utf8.decode pieces.flatten = .ok text) (hclear : Prompt.Unambiguous text) :
    (ofOutput (pieces.map Read.bytes)).forget = (ofReads .nothing text []).forget := by
  unfold Utf8.decode at htext
  cases hfeed : Utf8.feed .nothing 0 pieces.flatten with
  | error fault =>
      rw [hfeed] at htext
      cases htext
  | ok decoded =>
      obtain ⟨whole, last⟩ := decoded
      simp only [hfeed] at htext
      split at htext
      · cases htext
      · cases htext
        exact forget_ofReads hfeed hclear

end Dialogue

/-- What was done to a child, without the number of reads that never took place. -/
def Transcript.forget (transcript : Transcript) : Transcript :=
  { transcript with unread := 0 }

def Interviewed.forget (interviewed : Interviewed) : Interviewed :=
  ⟨interviewed.transcript.forget, interviewed.result⟩

/-- An interview uses the numbers of reads only to note them. -/
theorem interview_forget (request : Nat) (location : String) (status : ExitStatus)
    (dialogue : Dialogue) (accepted : Bool) (transcript : Transcript) :
    interview request location status dialogue.forget accepted transcript.forget =
      (interview request location status dialogue accepted transcript).map Interviewed.forget := by
  induction dialogue generalizing accepted transcript with
  | ended before => rfl
  | broken trouble unread => rfl
  | prompt kind before shown unread next ih =>
      cases accepted with
      | true => exact ih _ transcript.answered
      | false =>
          rw [Dialogue.forget, interview, interview, Conduct.map, Conduct.bind]
          congr 1
          funext reply
          split
          · exact ih _ transcript.answered
          · rfl

section Played

variable {τ : Type} (verbose : Bool) (party : Party τ) (heard : τ)

theorem run_interview_eq {dialogue dialogue' : Dialogue} (h : dialogue'.forget = dialogue.forget)
    (request : Nat) (location : String) (status : ExitStatus) :
    let played := (interview request location status dialogue false {}).run verbose party heard
    let played' := (interview request location status dialogue' false {}).run verbose party heard
    played'.value.forget = played.value.forget ∧ played'.state = played.state ∧
      played'.exchanges = played.exchanges ∧ played'.log = played.log := by
  have hmap : (interview request location status dialogue' false {}).map Interviewed.forget =
      (interview request location status dialogue false {}).map Interviewed.forget := calc
    _ = interview request location status dialogue'.forget false {} :=
      (interview_forget request location status dialogue' false {}).symm
    _ = interview request location status dialogue.forget false {} := by rw [h]
    _ = _ := interview_forget request location status dialogue false {}
  have hrun := congrArg (fun conduct => conduct.run verbose party heard) hmap
  simp only [Conduct.run_map] at hrun
  injection hrun with hvalue hstate hexchanges hlog
  exact ⟨hvalue, hstate, hexchanges, hlog⟩

theorem exists_result_interview {dialogue : Dialogue}
    (h : ∃ output, dialogue.ending = .ok output) (request : Nat) (location : String)
    (status : ExitStatus) :
    ∃ result, ((interview request location status dialogue false {}).run
      verbose party heard).value.result = .ok result := by
  obtain ⟨output, houtput⟩ := h
  rw [result_interview, houtput]
  split
  · exact ⟨_, rfl⟩
  · exact ⟨_, rfl⟩

end Played

/-- Mounting by a tool does not depend on how the output of the tool is cut into pieces: the challenges
and their replies, the lines sent, the terminations and closings of the child, what is printed, and
the status are the same. -/
theorem mount_does_not_depend_on_pieces {command location : String} {text : List Char}
    {state state' launched launched' : State} {pieces pieces' : List (List UInt8)}
    {status : ExitStatus}
    (hlaunch : state.launch command location = (.running (pieces.map Read.bytes) status, launched))
    (hlaunch' :
      state'.launch command location = (.running (pieces'.map Read.bytes) status, launched'))
    (hpieces : pieces'.flatten = pieces.flatten)
    (htext : Utf8.decode pieces.flatten = .ok text)
    (hclear : Prompt.Unambiguous text) {τ : Type} (verbose : Bool) (party : Party τ)
    (heard : τ) (worker : Option String) (request : Nat) (anonymous : Bool) :
    let played := (mount command worker state request location anonymous).run verbose party heard
    let played' := (mount command worker state' request location anonymous).run verbose party heard
    played'.exchanges = played.exchanges ∧ played'.state = played.state ∧ played'.log = played.log ∧
      (∃ result, played.value.1 = .ok result ∧ played'.value.1 = .ok result) ∧
      ∃ done done' : Transcript,
        played.value.2 =
          launched.note ⟨words command location anonymous, worker, some done⟩ ∧
        played'.value.2 =
          launched'.note ⟨words command location anonymous, worker, some done'⟩ ∧
        done'.sent = done.sent ∧ done'.terminated = done.terminated ∧ done'.closes = done.closes := by
  have hdialogue := Dialogue.forget_ofOutput htext hclear
  have hdialogue' := Dialogue.forget_ofOutput (hpieces ▸ htext) hclear
  obtain ⟨hvalue, hstate, hexchanges, hlog⟩ := run_interview_eq verbose party heard
    (hdialogue'.trans hdialogue.symm) request location status
  injection hvalue with htranscript hresult
  injection htranscript with hsent hterminated hcloses
  have hending : ∃ output, (Dialogue.ofOutput (pieces.map Read.bytes)).ending = .ok output := by
    rw [← Dialogue.ending_forget, hdialogue, Dialogue.ending_forget]
    exact Dialogue.exists_ending_eq_ok .nothing text
  obtain ⟨result, hok⟩ := exists_result_interview verbose party heard hending request location status
  intro played played'
  simp only [played, played', run_mount_of_running verbose party command state heard hlaunch,
    run_mount_of_running verbose party command state' heard hlaunch', hexchanges, hstate, hlog]
  exact ⟨trivial, trivial, trivial, ⟨result, hok, hresult.trans hok⟩, _, _, rfl, rfl, hsent,
    hterminated, hcloses⟩

/-- Three prompts, two of them with defaults, of which one ends in two bytes and the other is the word of a
prompt. -/
def talk : List Char :=
  "Password required\nUser [jdé]: Domain [User]: Password: done\n".toList

/-- A child whose output arrives in these pieces. -/
def talking (pieces : List (List UInt8)) : State where
  children := [("smb://h/a", [.running (pieces.map Read.bytes) (some 0)])]

/-- The talk is the same when it arrives byte by byte, with an empty piece after each. -/
theorem talk_arrives_bytewise :
    let bytewise := (Utf8.encode talk).flatMap fun byte => [[byte], []]
    let party := Party.ofHandler (Auth.Gate.handler true true)
    let played := (mount "gio" none (talking [Utf8.encode talk]) 0 "smb://h/a" false).run
      true party {}
    let played' := (mount "gio" none (talking bytewise) 0 "smb://h/a" false).run true party {}
    bytewise.flatten = Utf8.encode talk ∧ Prompt.Unambiguous talk ∧
      played'.exchanges = played.exchanges ∧
      ∃ result, played.value.1 = .ok result ∧ played'.value.1 = .ok result := by
  intro bytewise party played played'
  have hlaunch : ∀ pieces, (talking pieces).launch "gio" "smb://h/a" =
      (.running (pieces.map Read.bytes) (some 0), { children := [("smb://h/a", [])] }) :=
    fun _ => rfl
  have hbytewise : bytewise.flatten = Utf8.encode talk := by decide +kernel
  have hclear : Prompt.Unambiguous talk := by decide +kernel
  obtain ⟨hexchanges, -, -, hresult, -⟩ := mount_does_not_depend_on_pieces
    (hlaunch [Utf8.encode talk]) (hlaunch bytewise) (by rw [hbytewise]; rfl)
    (by rw [List.flatten_singleton]; exact Utf8.decode_encode talk) hclear true party {} none 0
    false
  exact ⟨hbytewise, hclear, hexchanges, hresult⟩

end SessionMounts.MountTool
