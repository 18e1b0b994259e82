import SessionMounts.Proofs.MountTool.Interview

/-!
Whether a child is closed. An interview that comes to a status closes its child once, as the last
thing that is done to it; one that is broken off by trouble leaves it open. Trouble is a read that
fails or output that cannot be decoded (`Faulty`), and it is met only if every challenge before it is
answered by going on. So this is exactly when a child that has been started is left open, and the
worker that reports the failure does not close it either (`child_is_closed_unless_broken_off`).
-/

namespace SessionMounts.MountTool

open Mounting

/-- A read fails, or the bytes that arrive before that cannot be decoded. -/
def Faulty (reads : List Read) : Prop :=
  (∃ error, .fault error ∈ reads) ∨ Garbled reads

namespace Dialogue

theorem exists_trouble_ofReads_iff (pending : Utf8.Pending) (buffer : List Char)
    (reads : List Read) :
    (∃ trouble, (ofReads pending buffer reads).ending = .error trouble) ↔
      (∃ error, .fault error ∈ reads) ∨ Utf8.Undecodable pending (arrived reads) := by
  fun_induction ofReads pending buffer reads with
  | case1 pending buffer reads found hfound ih => exact ih
  | case2 pending buffer hnone =>
      apply iff_of_false
      · rintro ⟨trouble, h⟩
        cases h
      · rintro (⟨error, h⟩ | h)
        · cases h
        · exact Utf8.not_undecodable_nil pending h
  | case3 pending buffer hnone error rest =>
      exact iff_of_true ⟨_, rfl⟩ (.inl ⟨error, List.mem_cons_self⟩)
  | case4 pending buffer hnone piece rest fault hpiece =>
      exact iff_of_true ⟨_, rfl⟩ (.inr (Utf8.undecodable_append_of_error hpiece (arrived rest)))
  | case5 pending buffer hnone piece rest text next hpiece ih =>
      rw [ih, arrived, Utf8.undecodable_append_iff hpiece]
      simp only [List.mem_cons, reduceCtorEq, false_or]

theorem exists_trouble_iff (reads : List Read) :
    (∃ trouble, (ofOutput reads).ending = .error trouble) ↔ Faulty reads :=
  exists_trouble_ofReads_iff .nothing [] reads

end Dialogue

/-- The ways out of an interview that has answered the prompts in a transcript: the child ends by
itself, there is trouble, or a challenge is not answered by going on. -/
inductive WayOut (location : String) (status : ExitStatus) (transcript : Transcript) :
    Interviewed → Prop
  | ended (before : List Char) :
      WayOut location status transcript ⟨transcript.closed, .ok (statusOf before status)⟩
  | broken (trouble : Trouble) (unread : Nat) :
      WayOut location status transcript ⟨{ transcript with unread := unread }, .error trouble⟩
  | refused (unread : Nat) :
      WayOut location status transcript
        ⟨transcript.stopped unread, .ok (.failed (authenticationAborted location))⟩

namespace WayOut

variable {location : String} {status : ExitStatus} {transcript : Transcript}
  {interviewed : Interviewed}

theorem closing (h : WayOut location status transcript interviewed) :
    (∃ result before, interviewed.result = .ok result ∧
        interviewed.transcript = Transcript.closed before ∧ before.closes = transcript.closes) ∨
      ∃ trouble, interviewed.result = .error trouble ∧
        interviewed.transcript.closes = transcript.closes := by
  cases h with
  | ended before => exact .inl ⟨_, transcript, rfl, rfl, rfl⟩
  | broken trouble unread => exact .inr ⟨trouble, rfl, rfl⟩
  | refused unread => exact .inl ⟨_, _, rfl, rfl, rfl⟩

/-- No way out sends anything more. -/
theorem sent_eq (h : WayOut location status transcript interviewed) :
    interviewed.transcript.sent = transcript.sent := by
  cases h <;> rfl

end WayOut

section Interview

variable {τ : Type} (verbose : Bool) (party : Party τ) (request : Nat) (location : String)
  (status : ExitStatus)

/-- Every interview answers some prompts and then takes one of the ways out. -/
theorem wayOut_interview (dialogue : Dialogue) (accepted : Bool) (transcript : Transcript)
    (heard : τ) :
    ∃ count, WayOut location status (transcript.afterAnswers count)
      ((interview request location status dialogue accepted transcript).run verbose party
        heard).value := by
  have hout {transcript : Transcript} {interviewed : Interviewed}
      (h : WayOut location status transcript interviewed) :
      ∃ count, WayOut location status (transcript.afterAnswers count) interviewed :=
    ⟨0, by rwa [Transcript.afterAnswers_zero]⟩
  induction dialogue generalizing accepted transcript heard with
  | ended before => exact hout (.ended before)
  | broken trouble unread => exact hout (.broken trouble unread)
  | prompt kind before shown unread next ih =>
      have hnext (heard : τ) : ∃ count, WayOut location status (transcript.afterAnswers count)
          ((interview request location status next (kind ≠ .password) transcript.answered).run verbose
            party heard).value := by
        obtain ⟨count, hlater⟩ := ih (kind ≠ .password) transcript.answered heard
        rw [Transcript.answered_afterAnswers] at hlater
        exact ⟨count + 1, hlater⟩
      cases accepted with
      | true => exact hnext heard
      | false =>
          rw [interview, Conduct.run]
          by_cases hreply : (party.answer heard request (challengeAt before)).reply = .handled
          · simp only [hreply, if_true]
            exact hnext _
          · simp only [hreply, if_false, Conduct.run]
            exact hout (.refused unread)

/-- An interview closes its child last of all if it comes to a status, and never if it does not. -/
theorem closing_interview (dialogue : Dialogue) (heard : τ) :
    let interviewed := ((interview request location status dialogue false {}).run verbose party
      heard).value
    (∃ result before, interviewed.result = .ok result ∧
        interviewed.transcript = Transcript.closed before ∧ before.closes = 0) ∨
      ∃ trouble, interviewed.result = .error trouble ∧ interviewed.transcript.closes = 0 := by
  obtain ⟨count, hout⟩ := wayOut_interview verbose party request location status dialogue false {}
    heard
  exact hout.closing

/-- It comes to a status unless there is trouble that no reply keeps it from. -/
theorem exists_result_interview_iff (reads : List Read) (heard : τ) :
    let played := (interview request location status (.ofOutput reads) false {}).run verbose party
      heard
    (∃ result, played.value.result = .ok result) ↔ ¬(Faulty reads ∧ AllHandled played.exchanges) := by
  intro played
  have hresult : played.value.result = if AllHandled played.exchanges then
      (Dialogue.ofOutput reads).ending.map fun output => statusOf output status
      else .ok (.failed (authenticationAborted location)) :=
    result_interview verbose party request location status (.ofOutput reads) false {} heard
  rw [hresult, ← Dialogue.exists_trouble_iff]
  by_cases hall : AllHandled played.exchanges
  · cases (Dialogue.ofOutput reads).ending with
    | ok output => simp [hall, Except.map]
    | error trouble => simp [hall, Except.map]
  · simp [hall]

theorem launches_report (result : Except Trouble Status) (state : State) (heard : τ) :
    ((report request result state).run verbose party heard).value.state.launches =
      state.launches := by
  rcases result with trouble | status
  · cases trouble <;> rfl
  · rfl

end Interview

/-- A child that has been started is closed once by the time its mounting has come to a status, and
nothing is done to it afterwards. If the mounting is broken off instead, because a read fails or the
output cannot be decoded and every challenge until then is answered by going on, the child is never
closed, and the worker that reports the trouble leaves it so. -/
theorem child_is_closed_unless_broken_off {command location : String} {state launched : State}
    {reads : List Read} {status : ExitStatus}
    (hlaunch : state.launch command location = (.running reads status, launched))
    {τ : Type} (verbose : Bool) (party : Party τ) (heard : τ) (worker : Option String)
    (request : Nat) (anonymous : Bool) :
    let played := (mount command worker state request location anonymous).run verbose party heard
    let brokenOff := Faulty reads ∧ AllHandled played.exchanges
    ∃ done : Transcript,
      played.value.2 = launched.note ⟨words command location anonymous, worker, some done⟩ ∧
      (¬brokenOff → (∃ result, played.value.1 = .ok result) ∧ done.closes = 1 ∧
        done.deeds.getLast? = some .close) ∧
      (brokenOff → (∃ trouble, played.value.1 = .error trouble) ∧ done.closes = 0) ∧
      ((report request played.value.1 played.value.2).run verbose party
          played.state).value.state.launches =
        launched.launches ++ [⟨words command location anonymous, worker, some done⟩] := by
  have hplayed := run_mount_of_running verbose party command state heard hlaunch worker request
    anonymous
  have hclosing := closing_interview verbose party request location status (.ofOutput reads) heard
  have hresult := exists_result_interview_iff verbose party request location status reads heard
  intro played brokenOff
  simp only [brokenOff, played, hplayed]
  refine ⟨_, rfl, ?_, ?_, launches_report verbose party request _ _ _⟩
  · intro hwhole
    obtain ⟨result, hresult⟩ := hresult.mpr hwhole
    rcases hclosing with ⟨_, before, -, hclosed, hcloses⟩ | ⟨trouble, htrouble, -⟩
    · refine ⟨⟨result, hresult⟩, ?_, ?_⟩
      · rw [hclosed, Transcript.closed, hcloses]
      · rw [hclosed, Transcript.closed, List.getLast?_concat]
    · cases hresult.symm.trans htrouble
  · intro hbroken
    rcases hclosing with ⟨result, -, hok, -⟩ | ⟨trouble, htrouble, hcloses⟩
    · exact absurd hbroken (hresult.mp ⟨result, hok⟩)
    · exact ⟨⟨trouble, htrouble⟩, hcloses⟩

/-- The reads of a child that asks for a password and then prints a byte that no text has. -/
def severedReads : List Read :=
  [.bytes (Utf8.encode "Password: ".toList), .bytes [0xFF]]

def severed : State where
  children := [("smb://h/a", [.running severedReads (some 0)])]

theorem ofOutput_severedReads :
    Dialogue.ofOutput severedReads = .prompt .password [] "Password: ".toList 1
      (.broken (.undecodable ⟨0, [0xFF], .invalidStart⟩) 0) := by
  have hnone : Prompt.find? [] = none := rfl
  have hfirst : Prompt.find? ([] ++ "Password: ".toList) =
      some ⟨[], .password, "Password: ".toList, []⟩ := by decide +kernel
  rw [Dialogue.ofOutput, severedReads, Dialogue.ofReads_of_piece hnone (decodeNext_encode _),
    Dialogue.ofReads_of_found hfirst, Dialogue.ofReads]
  rfl

theorem launch_severed : severed.launch "gio" "smb://h/a" =
    (.running severedReads (some 0), { children := [("smb://h/a", [])] }) := rfl

/-- Without a ticket the challenge is not answered by going on, so the child is closed. With a ticket
the child is left open, and its worker reports the trouble without closing it. -/
theorem severed_child_is_closed_if_refused :
    let played (ticket : Bool) := (mount "gio" none severed 0 "smb://h/a" false).run false
      (Party.ofHandler (Auth.Gate.handler ticket false)) {}
    (∃ done : Transcript, (played false).value.2.launches =
        [⟨["gio", "mount", "smb://h/a"], none, some done⟩] ∧ done.closes = 1) ∧
      ∃ done : Transcript, (played true).value.2.launches =
        [⟨["gio", "mount", "smb://h/a"], none, some done⟩] ∧ done.closes = 0 := by
  have hfaulty : Faulty severedReads := .inr ⟨⟨10, [0xFF], .invalidStart⟩, by decide +kernel⟩
  intro played
  constructor
  · obtain ⟨done, hvalue, hwhole, -⟩ := child_is_closed_unless_broken_off launch_severed false
      (Party.ofHandler (Auth.Gate.handler false false)) {} none 0 false
    refine ⟨done, congrArg State.launches hvalue, (hwhole ?_).2.1⟩
    rintro ⟨-, hall⟩
    rw [run_mount_of_running _ _ _ _ _ launch_severed, ofOutput_severedReads] at hall
    revert hall
    decide
  · obtain ⟨done, hvalue, -, hbroken, -⟩ := child_is_closed_unless_broken_off launch_severed false
      (Party.ofHandler (Auth.Gate.handler true false)) {} none 0 false
    refine ⟨done, congrArg State.launches hvalue, (hbroken ⟨hfaulty, ?_⟩).2⟩
    rw [run_mount_of_running _ _ _ _ _ launch_severed, ofOutput_severedReads]
    decide

/-- The mounting of this child is broken off after its prompt has been answered, and the child has
not been closed. -/
theorem severed_child_stays_open :
    ((mount "gio" none severed 0 "smb://h/a" false).run false
        (Party.ofHandler (Auth.Gate.handler true false)) {}).value =
      (.error (.undecodable ⟨0, [0xFF], .invalidStart⟩),
        { children := [("smb://h/a", [])]
          launches := [⟨["gio", "mount", "smb://h/a"], none,
            some { sent := [""], terminated := [], closes := 0, unread := 0, deeds := [.send] }⟩] }) := by
  rw [run_mount_of_running _ _ _ _ _ launch_severed, ofOutput_severedReads]
  rfl

end SessionMounts.MountTool
