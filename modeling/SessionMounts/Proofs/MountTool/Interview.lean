import SessionMounts.Proofs.MountTool.Chunking

/-!
The law of an interview. Challenges are put at the first prompt and at each prompt that comes right
after a password prompt (`Dialogue.openings`), and at no other. While the replies are to go on, every
prompt is answered by one empty line; the first other reply ends the interview at its prompt: the
child is terminated by force and closed, and what it would have printed afterwards does not matter
(`run_interview_of_refused`). The law of mounting by a tool (`mount_follows_the_prompts`) is put
together from one lemma on the exchanges and one on the transcript for each way out.
-/

namespace SessionMounts

open Auth (Challenge Reply Handler)

/-- Puts challenges to a handler one after another, up to the first that is not answered by going
on. -/
def Auth.Handler.consult {τ : Type} (handler : Handler τ) (state : τ) :
    List Challenge → List (Challenge × Reply)
  | [] => []
  | challenge :: rest =>
    let answer := handler state challenge
    (challenge, answer.reply) ::
      if answer.reply = .handled then handler.consult answer.state rest else []

namespace MountTool

open Mounting

section Consultation

variable {τ : Type} {handler : Handler τ} {state : τ} {challenges : List Challenge}

/-- When every challenge is answered by going on, all of them are put. -/
theorem map_fst_consult (h : AllHandled (handler.consult state challenges)) :
    (handler.consult state challenges).map Prod.fst = challenges := by
  induction challenges generalizing state with
  | nil => rfl
  | cons challenge rest ih =>
      rw [Handler.consult, allHandled_cons_iff] at h
      obtain ⟨hreply, hrest⟩ := h
      rw [if_pos hreply] at hrest
      rw [Handler.consult, if_pos hreply, List.map_cons, ih hrest]

/-- Another reply is the last one. -/
theorem length_consult_of_refused {index : Nat} {exchange : Challenge × Reply}
    (hexchange : (handler.consult state challenges)[index]? = some exchange)
    (hrefused : exchange.2 ≠ .handled) :
    (handler.consult state challenges).length = index + 1 := by
  induction challenges generalizing state index with
  | nil => cases hexchange
  | cons challenge rest ih =>
      rw [Handler.consult] at hexchange ⊢
      by_cases hreply : (handler state challenge).reply = .handled
      · simp only [hreply, if_true] at hexchange ⊢
        cases index with
        | zero =>
            cases hexchange
            exact absurd rfl hrefused
        | succ index => rw [List.length_cons, ih hexchange]
      · simp only [hreply, if_false] at hexchange ⊢
        cases index with
        | zero => rfl
        | succ index => cases hexchange

end Consultation

namespace Dialogue

/-- A prompt in a dialogue: what it asks for, the text since the prompt before it, and the number of
reads still to come. -/
structure Stop where
  kind : Prompt
  before : List Char
  unread : Nat
  deriving DecidableEq, Repr

def stops : Dialogue → List Stop
  | .prompt kind before _ unread next => ⟨kind, before, unread⟩ :: next.stops
  | .ended _ => []
  | .broken _ _ => []

/-- A challenge is put at the first prompt, and at each one that comes right after a password prompt. -/
def Opens (stops : List Stop) (place : Nat) : Prop :=
  place = 0 ∨ stops[place - 1]?.map Stop.kind = some .password

instance (stops : List Stop) (place : Nat) : Decidable (Opens stops place) :=
  inferInstanceAs (Decidable (place = 0 ∨ stops[place - 1]?.map Stop.kind = some .password))

/-- The prompts at which a challenge is put, with their places. -/
def openings (stops : List Stop) : List (Stop × Nat) :=
  stops.zipIdx.filter fun opening => Opens stops opening.2

/-- The same prompts, found on the way: `accepted` tells whether the challenge that spans the next
prompt has been answered. -/
def openingsFrom (accepted : Bool) (place : Nat) : List Stop → List (Stop × Nat)
  | [] => []
  | stop :: rest =>
    let others := openingsFrom (stop.kind ≠ .password) (place + 1) rest
    if accepted then others else (stop, place) :: others

theorem filter_zipIdx_eq_openingsFrom {stops rest : List Stop} {previous : Stop} {place : Nat}
    (hprevious : stops[place]? = some previous) (hrest : stops.drop (place + 1) = rest) :
    ((rest.zipIdx (place + 1)).filter fun opening => Opens stops opening.2) =
      openingsFrom (previous.kind ≠ .password) (place + 1) rest := by
  induction rest generalizing place previous with
  | nil => rfl
  | cons stop rest ih =>
      have hstop : stops[place + 1]? = some stop := by
        rw [← List.head?_drop, hrest, List.head?_cons]
      have hothers : stops.drop (place + 1 + 1) = rest := by
        rw [← List.tail_drop, hrest, List.tail_cons]
      have hopens : Opens stops (place + 1) ↔ previous.kind = .password := by
        simp [Opens, hprevious]
      rw [List.zipIdx_cons, List.filter_cons, ih hstop hothers, openingsFrom]
      by_cases hkind : previous.kind = .password
      · simp [hopens, hkind]
      · simp [hopens, hkind]

theorem openings_eq_openingsFrom (stops : List Stop) : openings stops = openingsFrom false 0 stops := by
  cases stops with
  | nil => rfl
  | cons stop rest =>
      have hothers : ((rest.zipIdx 1).filter fun opening => Opens (stop :: rest) opening.2) =
          openingsFrom (stop.kind ≠ .password) 1 rest :=
        filter_zipIdx_eq_openingsFrom (List.getElem?_cons_zero ..) rfl
      have hfirst : Opens (stop :: rest) 0 := .inl rfl
      rw [openings, List.zipIdx_cons, List.filter_cons, hothers, if_pos (decide_eq_true hfirst)]
      rfl

end Dialogue

/-- The transcript after several prompts have been answered. -/
def Transcript.afterAnswers (transcript : Transcript) (count : Nat) : Transcript :=
  { transcript with
    sent := transcript.sent ++ List.replicate count ""
    deeds := transcript.deeds ++ List.replicate count .send }

@[simp] theorem Transcript.afterAnswers_zero (transcript : Transcript) :
    transcript.afterAnswers 0 = transcript := by
  simp [afterAnswers]

theorem Transcript.answered_afterAnswers (transcript : Transcript) (count : Nat) :
    transcript.answered.afterAnswers count = transcript.afterAnswers (count + 1) := by
  simp [afterAnswers, answered, List.replicate_succ]

section Interview

variable {τ : Type} (verbose : Bool) (handler : Handler τ) (request : Nat) (location : String)
  (status : ExitStatus)

/-- The challenges put are those of the openings, up to the first that is not answered by going on. -/
theorem exchanges_interview (dialogue : Dialogue) (accepted : Bool) (transcript : Transcript)
    (heard : τ) (place : Nat) :
    ((interview request location status dialogue accepted transcript).run verbose
        (Party.ofHandler handler) heard).exchanges =
      handler.consult heard ((Dialogue.openingsFrom accepted place dialogue.stops).map
        fun opening => challengeAt opening.1.before) := by
  induction dialogue generalizing accepted transcript heard place with
  | ended before => rfl
  | broken trouble unread => rfl
  | prompt kind before shown unread next ih =>
      cases accepted with
      | true => exact ih _ _ heard (place + 1)
      | false =>
          rw [interview, Conduct.run, Dialogue.stops, Dialogue.openingsFrom]
          by_cases hreply : (handler heard (challengeAt before)).reply = .handled
          · simp only [Party.ofHandler, hreply, if_true, Bool.false_eq_true, if_false, List.map_cons,
              Handler.consult]
            exact congrArg _ (ih _ _ _ (place + 1))
          · simp only [Party.ofHandler, hreply, Bool.false_eq_true, if_false, List.map_cons,
              Handler.consult, Conduct.run]

/-- When every challenge is answered by going on, every prompt is answered and the child is closed. -/
theorem transcript_interview_of_handled {dialogue : Dialogue} {output : List Char}
    (hending : dialogue.ending = .ok output) (accepted : Bool) (transcript : Transcript) (heard : τ)
    (hall : AllHandled ((interview request location status dialogue accepted transcript).run verbose
      (Party.ofHandler handler) heard).exchanges) :
    ((interview request location status dialogue accepted transcript).run verbose
        (Party.ofHandler handler) heard).value.transcript =
      (transcript.afterAnswers dialogue.stops.length).closed := by
  induction dialogue generalizing accepted transcript heard with
  | ended before =>
      rw [interview, Dialogue.stops, List.length_nil, Transcript.afterAnswers_zero]
      rfl
  | broken trouble unread => cases hending
  | prompt kind before shown unread next ih =>
      rw [Dialogue.stops, List.length_cons, ← Transcript.answered_afterAnswers]
      cases accepted with
      | true => exact ih hending _ _ heard hall
      | false =>
          rw [interview, Conduct.run] at hall ⊢
          rw [allHandled_cons_iff] at hall
          obtain ⟨hreply, hrest⟩ := hall
          simp only [hreply, if_true] at hrest ⊢
          exact ih hending _ _ _ hrest

/-- The first other reply ends the interview at its prompt: those before it have been answered, and
the child is stopped. -/
theorem transcript_interview_of_refused {dialogue : Dialogue} {accepted : Bool}
    {transcript : Transcript} {heard : τ} {index : Nat} {exchange : Challenge × Reply} (place : Nat)
    (hexchange : ((interview request location status dialogue accepted transcript).run verbose
      (Party.ofHandler handler) heard).exchanges[index]? = some exchange)
    (hrefused : exchange.2 ≠ .handled) :
    ∃ (stop : Dialogue.Stop) (count : Nat),
      (Dialogue.openingsFrom accepted place dialogue.stops)[index]? = some (stop, place + count) ∧
      ((interview request location status dialogue accepted transcript).run verbose
        (Party.ofHandler handler) heard).value.transcript =
          (transcript.afterAnswers count).stopped stop.unread := by
  induction dialogue generalizing accepted transcript heard index place with
  | ended before => cases hexchange
  | broken trouble unread => cases hexchange
  | prompt kind before shown unread next ih =>
      -- An answered prompt counts for the place and for the lines sent alike.
      have hnext : ∀ {heard : τ} {index : Nat},
          ((interview request location status next (kind ≠ .password) transcript.answered).run verbose
            (Party.ofHandler handler) heard).exchanges[index]? = some exchange →
          ∃ (stop : Dialogue.Stop) (count : Nat),
            (Dialogue.openingsFrom (kind ≠ .password) (place + 1) next.stops)[index]? =
              some (stop, place + count) ∧
            ((interview request location status next (kind ≠ .password) transcript.answered).run
              verbose (Party.ofHandler handler) heard).value.transcript =
                (transcript.afterAnswers count).stopped stop.unread := by
        intro heard index hlater
        obtain ⟨stop, count, hopening, htranscript⟩ := ih (place + 1) hlater
        refine ⟨stop, count + 1, ?_, ?_⟩
        · rw [hopening, Nat.add_assoc, Nat.add_comm 1 count]
        · rw [htranscript, Transcript.answered_afterAnswers]
      cases accepted with
      | true => exact hnext hexchange
      | false =>
          rw [interview, Conduct.run] at hexchange ⊢
          rw [Dialogue.stops, Dialogue.openingsFrom]
          by_cases hreply : (handler heard (challengeAt before)).reply = .handled
          · simp only [Party.ofHandler, hreply, if_true, Bool.false_eq_true, if_false] at hexchange ⊢
            cases index with
            | zero =>
                cases hexchange
                exact absurd rfl hrefused
            | succ index => exact hnext hexchange
          · simp only [Party.ofHandler, hreply, Bool.false_eq_true, if_false, Conduct.run]
              at hexchange ⊢
            cases index with
            | zero => exact ⟨_, 0, rfl, by rw [Transcript.afterAnswers_zero]⟩
            | succ index => cases hexchange

end Interview

theorem Dialogue.ofReads_of_piece {pending next : Utf8.Pending} {buffer text : List Char}
    {piece : List UInt8} (hnone : Prompt.find? buffer = none)
    (hpiece : Utf8.decodeNext pending piece = .ok (text, next)) (rest : List Read) :
    ofReads pending buffer (.bytes piece :: rest) = ofReads next (buffer ++ text) rest := by
  rw [ofReads.eq_def]
  split
  · rename_i found hfound
    rw [hnone] at hfound
    cases hfound
  · simp only [hpiece]

/-- An interview in which some challenge is not answered by going on is decided by the reads up to its
last prompt: neither the output that would have followed nor the exit status matters. -/
theorem run_interview_of_refused {τ : Type} (verbose : Bool) (party : Party τ) (request : Nat)
    (location : String) (status status' : ExitStatus) {pending : Utf8.Pending} {buffer : List Char}
    {reads : List Read} {accepted : Bool} {transcript : Transcript} {heard : τ}
    (hrefused : ¬AllHandled ((interview request location status
      (.ofReads pending buffer reads) accepted transcript).run verbose party heard).exchanges)
    (others : List Read) :
    let played := (interview request location status (.ofReads pending buffer reads) accepted
      transcript).run verbose party heard
    let unread := played.value.transcript.unread
    unread ≤ reads.length ∧
      (interview request location status'
          (.ofReads pending buffer (reads.take (reads.length - unread) ++ others)) accepted
          transcript).run verbose party heard =
        { played with
          value := ⟨{ played.value.transcript with unread := others.length },
            played.value.result⟩ } := by
  fun_induction Dialogue.ofReads pending buffer reads generalizing accepted transcript heard with
  | case1 pending buffer reads found hfound ih =>
      simp only [Dialogue.ofReads_of_found hfound]
      cases accepted with
      | true => exact ih hrefused
      | false =>
          rw [interview, Conduct.run] at hrefused
          simp only [interview, Conduct.run]
          by_cases hreply : (party.answer heard request (challengeAt found.before)).reply = .handled
          · simp only [hreply, if_true, allHandled_cons_iff, true_and] at hrefused ⊢
            obtain ⟨hle, hsame⟩ := ih hrefused
            exact ⟨hle, by rw [hsame]⟩
          · have hunread : (transcript.stopped reads.length).unread = reads.length := rfl
            simp only [hreply, if_false, Conduct.run, hunread, Nat.sub_self, List.take_zero,
              List.nil_append]
            exact ⟨Nat.le_refl _, rfl⟩
  | case2 pending buffer hnone => exact absurd (fun _ => by rintro ⟨⟩) hrefused
  | case3 pending buffer hnone error rest => exact absurd (fun _ => by rintro ⟨⟩) hrefused
  | case4 pending buffer hnone piece rest fault hpiece =>
      exact absurd (fun _ => by rintro ⟨⟩) hrefused
  | case5 pending buffer hnone piece rest text next hpiece ih =>
      obtain ⟨hle, hsame⟩ := ih hrefused
      refine ⟨Nat.le_succ_of_le hle, ?_⟩
      dsimp only
      rw [List.length_cons, Nat.succ_sub hle, List.take_succ_cons, List.cons_append,
        Dialogue.ofReads_of_piece hnone hpiece]
      exact hsame

/-- Where every read gives bytes, a dialogue comes to the end of the output or to what cannot be
decoded. -/
theorem Dialogue.ending_of_bytes {pending : Utf8.Pending} {buffer : List Char} {reads : List Read}
    (hreads : ∀ read ∈ reads, ∃ piece, read = .bytes piece) :
    (∃ last, (ofReads pending buffer reads).ending = .ok last) ∨
      ∃ fault, (ofReads pending buffer reads).ending = .error (.undecodable fault) := by
  fun_induction ofReads pending buffer reads with
  | case1 pending buffer reads found hfound ih => exact ih hreads
  | case2 pending buffer hnone => exact .inl ⟨buffer, rfl⟩
  | case3 pending buffer hnone error rest =>
      obtain ⟨piece, hpiece⟩ := hreads _ List.mem_cons_self
      cases hpiece
  | case4 pending buffer hnone piece rest fault hpiece => exact .inr ⟨fault, rfl⟩
  | case5 pending buffer hnone piece rest text next hpiece ih =>
      exact ih fun read hmem => hreads read (List.mem_cons_of_mem _ hmem)

theorem Dialogue.exists_ending_of_decodable {reads : List Read}
    (hreads : ∀ read ∈ reads, ∃ piece, read = .bytes piece) (hdecodes : ¬Garbled reads) :
    ∃ last, (ofOutput reads).ending = .ok last := by
  rcases ending_of_bytes hreads with hlast | hfault
  · exact hlast
  · exact absurd ((exists_undecodable_iff .nothing [] reads).mp hfault) hdecodes

theorem statusOf_eq_done_iff (output : List Char) (status : ExitStatus) :
    statusOf output status = .done ↔ status = some 0 := by
  unfold statusOf
  split
  · exact iff_of_true rfl ‹_›
  · exact iff_of_false (by rintro ⟨⟩) ‹_›

section Value

variable {τ : Type} (verbose : Bool) (handler : Handler τ) (request : Nat) (location : String)
  (status : ExitStatus) {dialogue : Dialogue} {heard : τ}

/-- An interview all of whose challenges are answered by going on. -/
theorem value_interview_of_handled {last : List Char} (hlast : dialogue.ending = .ok last)
    (hall : AllHandled ((interview request location status dialogue false {}).run verbose
      (Party.ofHandler handler) heard).exchanges) :
    ((interview request location status dialogue false {}).run verbose (Party.ofHandler handler)
        heard).value =
      ⟨(Transcript.afterAnswers {} dialogue.stops.length).closed, .ok (statusOf last status)⟩ := by
  have hresult := result_interview verbose (Party.ofHandler handler) request location status dialogue
    false {} heard
  simp only [if_pos hall, hlast] at hresult
  rw [← transcript_interview_of_handled verbose handler request location status hlast false {} heard
    hall]
  exact congrArg (Interviewed.mk _) hresult

/-- An interview in which a challenge gets another reply. -/
theorem value_interview_of_refused {index : Nat} {exchange : Challenge × Reply}
    (hexchange : ((interview request location status dialogue false {}).run verbose
      (Party.ofHandler handler) heard).exchanges[index]? = some exchange)
    (hrefused : exchange.2 ≠ .handled) :
    ∃ (stop : Dialogue.Stop) (place : Nat),
      (Dialogue.openings dialogue.stops)[index]? = some (stop, place) ∧
      ((interview request location status dialogue false {}).run verbose (Party.ofHandler handler)
          heard).value =
        ⟨(Transcript.afterAnswers {} place).stopped stop.unread,
          .ok (.failed (authenticationAborted location))⟩ := by
  have hsome : ¬AllHandled _ := fun hall => hrefused (hall _ (List.mem_of_getElem? hexchange))
  have hresult := result_interview verbose (Party.ofHandler handler) request location status dialogue
    false {} heard
  simp only [if_neg hsome] at hresult
  obtain ⟨stop, place, hopening, htranscript⟩ := transcript_interview_of_refused verbose handler
    request location status 0 hexchange hrefused
  rw [← Dialogue.openings_eq_openingsFrom, Nat.zero_add] at hopening
  refine ⟨stop, place, hopening, ?_⟩
  rw [← htranscript]
  exact congrArg (Interviewed.mk _) hresult

end Value

/-- Mounting by a tool follows the prompts of its child, if all that it prints can be read and decoded.
The handler is asked at the first prompt and at each prompt right after a password prompt, with the
text since the prompt before, until it does not say to go on. If it always does, there is one
empty line for each prompt, the child is closed once, and the result is done exactly if the
child exits with 0, else what its last words and its status say. If it does not at some prompt, there
is one empty line for each prompt before that, the child is terminated by force and closed, in this
order, and what it would have printed afterwards makes no difference. -/
theorem mount_follows_the_prompts {command location : String} {state launched : State}
    {reads : List Read} {status : ExitStatus}
    (hlaunch : state.launch command location = (.running reads status, launched))
    (hreads : ∀ read ∈ reads, ∃ piece, read = .bytes piece) (hdecodes : ¬Garbled reads)
    {τ : Type} (handler : Handler τ) (heard : τ) (verbose : Bool) (worker : Option String)
    (request : Nat) (anonymous : Bool) :
    let stops := (Dialogue.ofOutput reads).stops
    let openings := Dialogue.openings stops
    let challenges : List Challenge := openings.map fun opening =>
      { message := String.ofList (Text.trim opening.1.before) }
    let played := (mount command worker state request location anonymous).run verbose
      (Party.ofHandler handler) heard
    played.exchanges = handler.consult heard challenges ∧
    ∃ (last : List Char) (result : Status) (done : Transcript),
      (Dialogue.ofOutput reads).ending = .ok last ∧
      played.value =
        (.ok result, launched.note ⟨words command location anonymous, worker, some done⟩) ∧
      (AllHandled played.exchanges →
        played.exchanges.map Prod.fst = challenges ∧
        done =
          { sent := List.replicate stops.length ""
            terminated := []
            closes := 1
            unread := 0
            deeds := List.replicate stops.length .send ++ [.close] } ∧
        (result = .done ↔ status = some 0) ∧
        (status ≠ some 0 → result = .failed (failureOf last status))) ∧
      ∀ (index : Nat) (exchange : Challenge × Reply), played.exchanges[index]? = some exchange →
        exchange.2 ≠ .handled →
        ∃ (stop : Dialogue.Stop) (place : Nat),
          openings[index]? = some (stop, place) ∧ played.exchanges.length = index + 1 ∧
          stop.unread ≤ reads.length ∧
          done =
            { sent := List.replicate place ""
              terminated := [true]
              closes := 1
              unread := stop.unread
              deeds := List.replicate place .send ++ [.terminate, .close] } ∧
          result = .failed ⟨"failed-handled", "Authentication aborted for " ++ location⟩ ∧
          ∀ (state' launched' : State) (others : List Read) (status' : ExitStatus),
            state'.launch command location =
                (.running (reads.take (reads.length - stop.unread) ++ others) status', launched') →
            let played' := (mount command worker state' request location anonymous).run verbose
              (Party.ofHandler handler) heard
            played'.exchanges = played.exchanges ∧ played'.state = played.state ∧
              played'.log = played.log ∧
              played'.value = (.ok result, launched'.note ⟨words command location anonymous, worker,
                some { done with unread := others.length }⟩) := by
  let session := (interview request location status (.ofOutput reads) false {}).run verbose
    (Party.ofHandler handler) heard
  have hplayed := run_mount_of_running verbose (Party.ofHandler handler) command state heard hlaunch
    worker request anonymous
  have hexchanges := exchanges_interview verbose handler request location status (.ofOutput reads)
    false {} heard 0
  rw [← Dialogue.openings_eq_openingsFrom] at hexchanges
  obtain ⟨last, hlast⟩ := Dialogue.exists_ending_of_decodable hreads hdecodes
  obtain ⟨result, hresult⟩ := exists_result_interview verbose (Party.ofHandler handler) heard
    ⟨last, hlast⟩ request location status
  intro stops openings challenges played
  simp only [played, hplayed]
  refine ⟨hexchanges, last, result, session.value.transcript, hlast, by rw [hresult], ?_, ?_⟩
  · intro hall
    have hvalue := value_interview_of_handled verbose handler request location status hlast hall
    simp only [session, hvalue] at hresult ⊢
    cases hresult
    refine ⟨?_, rfl, statusOf_eq_done_iff last status, fun hfailed => if_neg hfailed⟩
    rw [hexchanges] at hall ⊢
    exact map_fst_consult hall
  · intro index exchange hexchange hrefused
    obtain ⟨stop, place, hopening, hvalue⟩ := value_interview_of_refused verbose handler request
      location status hexchange hrefused
    have hsome : ¬AllHandled session.exchanges :=
      fun hall => hrefused (hall _ (List.mem_of_getElem? hexchange))
    have hunread : session.value.transcript.unread = stop.unread := by
      simp only [session, hvalue]
      rfl
    have hlength : session.exchanges.length = index + 1 := by
      rw [hexchanges] at hexchange ⊢
      exact length_consult_of_refused hexchange hrefused
    have hdecided : ∀ (status' : ExitStatus) (others : List Read), stop.unread ≤ reads.length ∧
        (interview request location status'
            (.ofOutput (reads.take (reads.length - stop.unread) ++ others)) false {}).run verbose
            (Party.ofHandler handler) heard =
          { session with
            value := ⟨{ session.value.transcript with unread := others.length },
              session.value.result⟩ } := by
      intro status' others
      rw [← hunread]
      exact run_interview_of_refused verbose (Party.ofHandler handler) request location status
        status' hsome others
    have haborted : result = .failed (authenticationAborted location) := by
      rw [hvalue] at hresult
      exact (Except.ok.inj hresult).symm
    refine ⟨stop, place, hopening, hlength, (hdecided status []).1, ?_, haborted, ?_⟩
    · simp only [session, hvalue]
      simp [Transcript.afterAnswers, Transcript.stopped, Transcript.closed]
    · intro state' launched' others status' hlaunch'
      rw [run_mount_of_running verbose (Party.ofHandler handler) command state' heard hlaunch',
        (hdecided status' others).2]
      exact ⟨rfl, rfl, rfl, by rw [← hresult]⟩

/-- The pieces in which a child prints that asks for a password, is not content, and begins a second
round. -/
def strictPieces : List (List UInt8) :=
  ["Mounting a\nPassword: ", "Wrong\nUser [jd", "oe]: ", "Mounted\n"].map fun text =>
    Utf8.encode text.toList

def strictReads : List Read := strictPieces.map .bytes

def strict : State where
  children := [("smb://h/a", [.running strictReads (some 0)])]

theorem decodeNext_encode (text : List Char) :
    Utf8.decodeNext .nothing (Utf8.encode text) = .ok (text, .nothing) :=
  Utf8.feed_encode text _

theorem stops_strictReads :
    (Dialogue.ofOutput strictReads).stops =
      [⟨.password, "Mounting a\n".toList, 3⟩, ⟨.user, "Wrong\n".toList, 1⟩] := by
  have hnone : Prompt.find? [] = none := rfl
  have hfirst : Prompt.find? ([] ++ "Mounting a\nPassword: ".toList) =
      some ⟨"Mounting a\n".toList, .password, "Password: ".toList, []⟩ := by decide +kernel
  have hpart : Prompt.find? ([] ++ "Wrong\nUser [jd".toList) = none := by decide +kernel
  have hsecond : Prompt.find? ([] ++ "Wrong\nUser [jd".toList ++ "oe]: ".toList) =
      some ⟨"Wrong\n".toList, .user, "User [jdoe]: ".toList, []⟩ := by decide +kernel
  have hlast : Prompt.find? ([] ++ "Mounted\n".toList) = none := by decide +kernel
  simp only [Dialogue.ofOutput, strictReads, strictPieces, List.map_cons, List.map_nil]
  rw [Dialogue.ofReads_of_piece hnone (decodeNext_encode _), Dialogue.ofReads_of_found hfirst,
    Dialogue.ofReads_of_piece hnone (decodeNext_encode _),
    Dialogue.ofReads_of_piece hpart (decodeNext_encode _), Dialogue.ofReads_of_found hsecond,
    Dialogue.ofReads_of_piece hnone (decodeNext_encode _), Dialogue.ofReads_of_none hlast]
  simp only [Dialogue.stops, List.length_cons, List.length_nil]

/-- A challenge is answered in the first round and not in the second, so the child is stopped at its
second prompt, and its last words are not read. -/
theorem second_round_is_refused :
    let played := (mount "gio" none strict 0 "smb://h/a" false).run true
      (Party.ofHandler (Auth.Gate.rehearsed false true)) ([.handled, .unhandled], {})
    played.exchanges = [({ message := "Mounting a" }, .handled), ({ message := "Wrong" }, .unhandled)] ∧
      played.value = (.ok (.failed ⟨"failed-handled", "Authentication aborted for smb://h/a"⟩),
        { children := [("smb://h/a", [])]
          launches := [⟨["gio", "mount", "smb://h/a"], none,
            some ⟨[""], [true], 1, 1, [.send, .terminate, .close]⟩⟩] }) := by
  have hlaunch : strict.launch "gio" "smb://h/a" =
      (.running strictReads (some 0), { children := [("smb://h/a", [])] }) := rfl
  have hreads : ∀ read ∈ strictReads, ∃ piece, read = .bytes piece := by
    intro read hmem
    obtain ⟨text, -, rfl⟩ := List.mem_map.mp hmem
    exact ⟨_, rfl⟩
  have harrived : arrived strictReads =
      Utf8.encode "Mounting a\nPassword: Wrong\nUser [jdoe]: Mounted\n".toList := by decide +kernel
  have hdecodes : ¬Garbled strictReads := by
    rintro ⟨fault, hfault⟩
    rw [harrived, Utf8.feed_encode] at hfault
    cases hfault
  obtain ⟨hexchanges, last, result, done, -, hvalue, -, hrefused⟩ :=
    mount_follows_the_prompts hlaunch hreads hdecodes (Auth.Gate.rehearsed false true)
      ([.handled, .unhandled], {}) true none 0 false
  rw [stops_strictReads] at hexchanges hrefused
  have hconsulted := hexchanges.trans (show _ = [({ message := "Mounting a" }, Reply.handled),
    ({ message := "Wrong" }, Reply.unhandled)] by decide +kernel)
  obtain ⟨stop, place, hopening, -, -, hdone, hresult, -⟩ :=
    hrefused 1 ({ message := "Wrong" }, .unhandled) (by rw [hconsulted]; rfl) (by decide)
  have hsecond : stop = ⟨.user, "Wrong\n".toList, 1⟩ ∧ place = 1 := by
    have hplace := Option.some.inj (hopening.symm.trans (show _ = some
      ((⟨.user, "Wrong\n".toList, 1⟩, 1) : Dialogue.Stop × Nat) by decide +kernel))
    exact Prod.mk.inj hplace
  obtain ⟨rfl, rfl⟩ := hsecond
  refine ⟨hconsulted, ?_⟩
  rw [hvalue, hdone, hresult]
  decide +kernel

end MountTool

end SessionMounts
