import SessionMounts.Proofs.MountTool.Asking
import SessionMounts.Proofs.MountTool.Closing
import SessionMounts.Proofs.Mounting.Gates

/-!
A gate that answers for a mounting by the tool. No prompt offers anonymous access, so the gate answers
all challenges of an interview alike, by whether a ticket cache is named, and stays as it was
(`run_interview_gate`): the only trace of an anonymous request is the option on the command line. With
a ticket every prompt is answered by an empty line; without one the first prompt is the last
(`only_a_ticket_answers_prompts`).
-/

namespace SessionMounts.MountTool

open Auth (Challenge Reply Gate)
open Console (Log)
open Mounting

namespace Dialogue

/-- The first prompt is always one at which a challenge is put. -/
theorem openings_cons (stop : Stop) (rest : List Stop) :
    ∃ others, openings (stop :: rest) = (stop, 0) :: others := by
  rw [openings_eq_openingsFrom]
  exact ⟨_, rfl⟩

end Dialogue

section Gate

variable (ticket verbose : Bool) (gate : Gate)

/-- What is printed about a challenge that offers no anonymous access. -/
def remarkOnTicket : Log :=
  if ticket = true then Console.debug verbose "Kerberos ticket found on the machine."
  else [Console.warning "Kerberos ticket not available on the machine."]

/-- Every gate answers the challenges of an interview by the ticket alone, and stays as it was. -/
theorem answer_challengeAt (before : List Char) :
    gate.answer ticket verbose (challengeAt before) =
      { reply := if ticket = true then .handled else .aborted
        state := gate
        log := remarkOnTicket ticket verbose } := by
  have hoffer : (challengeAt before).anonymousSupported = false := rfl
  simp only [Gate.answer, hoffer, Bool.and_false, Bool.false_eq_true, if_false, remarkOnTicket]
  cases ticket <;> rfl

/-- All interviews of gates are alike, and leave the gate as it was. -/
theorem run_interview_gate (request : Nat) (location : String) (status : ExitStatus)
    (dialogue : Dialogue) (accepted : Bool) (transcript : Transcript) :
    (interview request location status dialogue accepted transcript).run verbose
        (Party.ofHandler (Gate.handler ticket verbose)) gate =
      { (interview request location status dialogue accepted transcript).run verbose
          (Party.ofHandler (Gate.handler ticket verbose)) {} with
        state := gate } := by
  induction dialogue generalizing accepted transcript with
  | ended before => rfl
  | broken trouble unread => rfl
  | prompt kind before shown unread next ih =>
      cases accepted with
      | true => exact ih _ _
      | false =>
          have hanswer : ∀ asked : Gate, (Party.ofHandler (Gate.handler ticket verbose)).answer asked
              request (challengeAt before) = _ :=
            fun asked => answer_challengeAt ticket verbose asked before
          simp only [interview, Conduct.run, hanswer]
          by_cases hticket : ticket = true
          · simp only [if_pos hticket, if_true]
            rw [ih]
          · simp only [if_neg hticket, reduceCtorEq, if_false, Conduct.run]

/-- With a ticket a gate answers all challenges of an interview by going on; without one the first
challenge is the last. -/
theorem consult_gate (befores : List (List Char)) :
    (Gate.handler ticket verbose).consult gate (befores.map challengeAt) =
      if ticket = true then befores.map fun before => (challengeAt before, .handled)
      else (befores.take 1).map fun before => (challengeAt before, .aborted) := by
  induction befores with
  | nil => cases ticket <;> rfl
  | cons before rest ih =>
      rw [Gate.handler] at ih ⊢
      rw [List.map_cons, Auth.Handler.consult, answer_challengeAt]
      cases ticket with
      | false => rfl
      | true => simpa using ih

/-- The exchanges of a gate's interview. -/
theorem exchanges_interview_gate (request : Nat) (location : String) (status : ExitStatus)
    (dialogue : Dialogue) :
    let befores := (Dialogue.openings dialogue.stops).map fun opening => opening.1.before
    ((interview request location status dialogue false {}).run verbose
        (Party.ofHandler (Gate.handler ticket verbose)) gate).exchanges =
      if ticket = true then befores.map fun before => (challengeAt before, .handled)
      else (befores.take 1).map fun before => (challengeAt before, .aborted) := by
  intro befores
  rw [exchanges_interview verbose _ request location status dialogue false {} gate 0,
    ← Dialogue.openings_eq_openingsFrom, ← consult_gate ticket verbose gate befores, List.map_map]
  rfl

theorem exists_before_of_exchange {request : Nat} {location : String} {status : ExitStatus}
    {dialogue : Dialogue} {exchange : Challenge × Reply}
    (hmem : exchange ∈ ((interview request location status dialogue false {}).run verbose
      (Party.ofHandler (Gate.handler ticket verbose)) gate).exchanges) :
    ∃ before, exchange.1 = challengeAt before := by
  rw [exchanges_interview_gate] at hmem
  split at hmem
  · obtain ⟨before, -, rfl⟩ := List.mem_map.mp hmem
    exact ⟨before, rfl⟩
  · obtain ⟨before, -, rfl⟩ := List.mem_map.mp hmem
    exact ⟨before, rfl⟩

/-- With a ticket, or without a prompt, no challenge is refused. -/
theorem allHandled_interview_gate {dialogue : Dialogue} (h : ticket = true ∨ dialogue.stops = [])
    (request : Nat) (location : String) (status : ExitStatus) :
    AllHandled ((interview request location status dialogue false {}).run verbose
      (Party.ofHandler (Gate.handler ticket verbose)) gate).exchanges := by
  rw [exchanges_interview_gate]
  rcases h with hticket | hquiet
  · rw [if_pos hticket]
    intro exchange hmem
    obtain ⟨before, -, rfl⟩ := List.mem_map.mp hmem
    rfl
  · rw [hquiet]
    intro exchange hmem
    split at hmem <;> cases hmem

/-- Without a ticket the first prompt is refused, and with it the mounting. -/
theorem interview_gate_of_no_ticket {dialogue : Dialogue} {stop : Dialogue.Stop}
    {rest : List Dialogue.Stop} (hstops : dialogue.stops = stop :: rest) (request : Nat)
    (location : String) (status : ExitStatus) :
    let played := (interview request location status dialogue false {}).run verbose
      (Party.ofHandler (Gate.handler false verbose)) gate
    played.exchanges = [(challengeAt stop.before, .aborted)] ∧
      played.value = ⟨Transcript.stopped {} stop.unread,
        .ok (.failed (authenticationAborted location))⟩ := by
  intro played
  obtain ⟨others, hopenings⟩ := Dialogue.openings_cons stop rest
  have honly : played.exchanges = [(challengeAt stop.before, .aborted)] := by
    simp only [played, exchanges_interview_gate, hstops, hopenings]
    rfl
  have hfirst : played.exchanges[0]? = some (challengeAt stop.before, .aborted) := by
    rw [honly]
    rfl
  obtain ⟨refused, place, hopening, hvalue⟩ := value_interview_of_refused verbose
    (Gate.handler false verbose) request location status hfirst (by rintro ⟨⟩)
  rw [hstops, hopenings] at hopening
  cases hopening
  rw [Transcript.afterAnswers_zero] at hvalue
  exact ⟨honly, hvalue⟩

end Gate

/-- Nothing but empty lines is sent to a child. -/
theorem sent_interview {τ : Type} (verbose : Bool) (party : Party τ) (request : Nat)
    (location : String) (status : ExitStatus) (dialogue : Dialogue) (heard : τ) :
    ∃ count, ((interview request location status dialogue false {}).run verbose party
      heard).value.transcript.sent = List.replicate count "" := by
  obtain ⟨count, hout⟩ := wayOut_interview verbose party request location status dialogue false {}
    heard
  exact ⟨count, hout.sent_eq⟩

theorem arrived_map_bytes (pieces : List (List UInt8)) :
    arrived (pieces.map Read.bytes) = pieces.flatten := by
  induction pieces with
  | nil => rfl
  | cons piece pieces ih => rw [List.map_cons, arrived, ih, List.flatten_cons]

theorem exists_ending_of_feed {pieces : List (List UInt8)} {text : List Char}
    {last : Utf8.Pending} (hfeed : Utf8.feed .nothing 0 pieces.flatten = .ok (text, last)) :
    ∃ output, (Dialogue.ofOutput (pieces.map Read.bytes)).ending = .ok output := by
  apply Dialogue.exists_ending_of_decodable
  · intro read hread
    obtain ⟨piece, -, rfl⟩ := List.mem_map.mp hread
    exact ⟨piece, rfl⟩
  · rintro ⟨fault, hfault⟩
    rw [arrived_map_bytes] at hfault
    cases hfault.symm.trans hfeed

/-- A gate that answers for a mounting by the tool lets a ticket decide alone. Whatever the child
prints, nothing but empty lines is sent, no challenge touches the gate, and for an anonymous gate and
one that is not the challenges, the replies, the lines sent, the result and what the interview prints
are the same; only the command lines differ. If the output can be decoded and shows a prompt while no
ticket cache is named, nothing is sent, the gate is asked once, and the result says that authentication was
aborted. Otherwise every prompt is answered by an empty line, and the result is done exactly if the
child exits with 0. -/
theorem only_a_ticket_answers_prompts {command location : String} {state launched : State}
    {reads : List Read} {status : ExitStatus}
    (hlaunch : state.launch command location = (.running reads status, launched))
    (ticket verbose : Bool) (worker : Option String) (request : Nat) :
    let play (anonymous : Bool) := (mount command worker state request location anonymous).run verbose
      (Party.ofHandler (Gate.handler ticket verbose)) { anonymous := anonymous }
    ∃ (result : Except Trouble Status) (done : Transcript) (exchanges : List (Challenge × Reply))
      (log : Log),
      (∀ anonymous : Bool, play anonymous =
        { value := (result, launched.note
            { words := [command, "mount"] ++ (if anonymous then ["--anonymous"] else []) ++ [location]
              worker := worker
              transcript := some done })
          state := { anonymous := anonymous, attempt := .unset }
          exchanges := exchanges
          log := (announce anonymous location).flatMap (Console.printed verbose) ++ log }) ∧
      (∀ exchange ∈ exchanges, ∀ anonymous : Bool,
        (Gate.handler ticket verbose { anonymous := anonymous, attempt := .unset } exchange.1).state =
          { anonymous := anonymous, attempt := .unset }) ∧
      (∃ count, done.sent = List.replicate count "") ∧
      ∀ (pieces : List (List UInt8)) (text : List Char) (last : Utf8.Pending),
        reads = pieces.map Read.bytes →
        Utf8.feed .nothing 0 pieces.flatten = .ok (text, last) →
        (Prompt.Occurs text ∧ ticket = false →
          result = .ok (.failed ⟨"failed-handled", "Authentication aborted for " ++ location⟩) ∧
          done.sent = [] ∧ exchanges.length = 1) ∧
        (¬(Prompt.Occurs text ∧ ticket = false) →
          AllHandled exchanges ∧
          done.sent = List.replicate (Dialogue.ofOutput reads).stops.length "" ∧
          ∃ ending : Status, result = .ok ending ∧ (ending = .done ↔ status = some 0)) := by
  let session := (interview request location status (.ofOutput reads) false {}).run verbose
    (Party.ofHandler (Gate.handler ticket verbose)) {}
  intro play
  refine ⟨session.value.result, session.value.transcript, session.exchanges, session.log, ?_, ?_, ?_,
    ?_⟩
  · intro anonymous
    have hplay := run_mount_of_running verbose (Party.ofHandler (Gate.handler ticket verbose)) command
      state { anonymous := anonymous } hlaunch worker request anonymous
    rw [run_interview_gate] at hplay
    exact hplay
  · intro exchange hmem anonymous
    obtain ⟨before, hbefore⟩ := exists_before_of_exchange ticket verbose {} hmem
    rw [Gate.handler, hbefore, answer_challengeAt]
  · exact sent_interview verbose (Party.ofHandler (Gate.handler ticket verbose)) request location
      status (.ofOutput reads) {}
  · rintro pieces text last rfl hfeed
    have hoccurs := Dialogue.stops_ne_nil_iff hfeed
    constructor
    · rintro ⟨hshown, rfl⟩
      obtain ⟨stop, rest, hstops⟩ := List.exists_cons_of_ne_nil (hoccurs.mpr hshown)
      obtain ⟨honly, hvalue⟩ := interview_gate_of_no_ticket verbose {} hstops request location status
      simp only [session, honly, hvalue]
      exact ⟨rfl, rfl, rfl⟩
    · intro hgoes
      have hhandled : ticket = true ∨ (Dialogue.ofOutput (pieces.map Read.bytes)).stops = [] := by
        by_contra hneither
        obtain ⟨hticket, hstops⟩ := not_or.mp hneither
        exact hgoes ⟨hoccurs.mp hstops, Bool.eq_false_iff.mpr hticket⟩
      have hall := allHandled_interview_gate ticket verbose {} hhandled request location status
      obtain ⟨output, houtput⟩ := exists_ending_of_feed hfeed
      have hvalue := value_interview_of_handled verbose _ request location status houtput hall
      simp only [session, hvalue]
      exact ⟨hall, rfl, _, rfl, statusOf_eq_done_iff output status⟩

/-- The strict tool is content with a ticket, for an anonymous request as for any other; without one its
first prompt is its last. -/
theorem strict_tool_is_content_with_a_ticket :
    let play (ticket anonymous : Bool) :=
      ((mount "gio" none strict 0 "smb://h/a" anonymous).run false
        (Party.ofHandler (Gate.handler ticket false)) { anonymous := anonymous }).value
    (∃ done : Transcript, done.sent = ["", ""] ∧
      (play true true).1 = .ok .done ∧ (play true true).2.launches =
        [⟨["gio", "mount", "--anonymous", "smb://h/a"], none, some done⟩] ∧
      (play true false).1 = .ok .done ∧ (play true false).2.launches =
        [⟨["gio", "mount", "smb://h/a"], none, some done⟩]) ∧
    ∃ done : Transcript, done.sent = [] ∧
      (play false true).1 =
        .ok (.failed ⟨"failed-handled", "Authentication aborted for smb://h/a"⟩) ∧
      (play false true).2.launches =
        [⟨["gio", "mount", "--anonymous", "smb://h/a"], none, some done⟩] := by
  have hlaunch : strict.launch "gio" "smb://h/a" =
      (.running strictReads (some 0), { children := [("smb://h/a", [])] }) := rfl
  have hpieces : strictReads = strictPieces.map Read.bytes := rfl
  have hprinted : strictPieces.flatten =
      Utf8.encode "Mounting a\nPassword: Wrong\nUser [jdoe]: Mounted\n".toList := by decide +kernel
  have hfeed : Utf8.feed .nothing 0 strictPieces.flatten =
      .ok ("Mounting a\nPassword: Wrong\nUser [jdoe]: Mounted\n".toList, .nothing) := by
    rw [hprinted, Utf8.feed_encode]
  have hoccurs : Prompt.Occurs "Mounting a\nPassword: Wrong\nUser [jdoe]: Mounted\n".toList :=
    ⟨.password, _, .bare, "Mounting a\n".toList, "Wrong\nUser [jdoe]: Mounted\n".toList, by decide⟩
  intro play
  constructor
  · obtain ⟨result, done, exchanges, log, hplay, -, -, hends⟩ :=
      only_a_ticket_answers_prompts hlaunch true false none 0
    obtain ⟨-, hsent, ending, rfl, hdone⟩ := (hends _ _ _ hpieces hfeed).2 (by rintro ⟨-, ⟨⟩⟩)
    rw [stops_strictReads] at hsent
    rw [hdone.mpr rfl] at hplay
    refine ⟨done, hsent, ?_, ?_, ?_, ?_⟩
    · exact congrArg (fun played => played.value.1) (hplay true)
    · exact congrArg (fun played => played.value.2.launches) (hplay true)
    · exact congrArg (fun played => played.value.1) (hplay false)
    · exact congrArg (fun played => played.value.2.launches) (hplay false)
  · obtain ⟨result, done, exchanges, log, hplay, -, -, hends⟩ :=
      only_a_ticket_answers_prompts hlaunch false false none 0
    obtain ⟨rfl, hsent, -⟩ := (hends _ _ _ hpieces hfeed).1 ⟨hoccurs, rfl⟩
    refine ⟨done, hsent, ?_, ?_⟩
    · exact congrArg (fun played => played.value.1) (hplay true)
    · exact congrArg (fun played => played.value.2.launches) (hplay true)

end SessionMounts.MountTool
