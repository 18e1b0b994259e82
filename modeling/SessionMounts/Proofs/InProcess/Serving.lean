import SessionMounts.Proofs.InProcess.Courses
import SessionMounts.Proofs.Mounting.Gates
import SessionMounts.Proofs.Mounting.Reports

/-!
What the background thread has done at any moment. It has come to the end of the operations of some
entries, the first ones in their order; it may be in the middle of the next; and those that were
handed over after it are still queued (`Loop.Sound`). No step of either thread upsets this
(`Loop.Sound.step`), so it holds whatever the order of their steps is.
-/

namespace SessionMounts

open Auth (Challenge Reply)

namespace Mounting.Request

variable (ticket verbose : Bool)

/-- The request after a challenge that its gate has answered. -/
def asked (request : Request) (challenge : Challenge) : Request :=
  { request with
    gate := (request.gate.answer ticket verbose challenge).state
    exchanges := request.exchanges ++
      [(challenge, (request.gate.answer ticket verbose challenge).reply)] }

/-- Challenges leave all but the gate and the exchanges. -/
theorem foldl_asked (request : Request) (challenges : List Challenge) :
    ∃ gate exchanges, challenges.foldl (asked ticket verbose) request =
      { request with gate := gate, exchanges := exchanges } := by
  induction challenges generalizing request with
  | nil => exact ⟨request.gate, request.exchanges, rfl⟩
  | cons challenge rest ih => exact ih (request.asked ticket verbose challenge)

end Mounting.Request

namespace InProcess

open Mounting

section Entries

variable (library : State) (entries : List Entry) (ticket verbose : Bool)

/-- The challenges of the operation for the entry with a number. -/
def challengesAt (number : Nat) : List Challenge :=
  (library.courseAt entries number).questions.map Question.challenge

/-- The request for an entry when its operation has ended. -/
def served (place : Entry × Nat) : Request :=
  { (challengesAt library entries place.2).foldl (Request.asked ticket verbose)
      (.fresh place.1) with
    reports := [(library.courseAt entries place.2).status] }

/-- The operation for an entry. -/
def operationAt (place : Entry × Nat) : Operation where
  location := place.1.location
  flags := 0
  anonymous := place.1.anonymous
  replies := (served library entries ticket verbose place).exchanges.map Prod.snd

/-- The ends of the first operations. -/
def endsUpTo (count : Nat) : List (Nat × Status) :=
  (List.range count).map fun number => (number, (library.courseAt entries number).status)

end Entries

/-- The end of an operation is reported, and the operation is recorded with its replies. -/
def conclusion (library : State) (number : Nat) (entry : Entry) (replies : List Reply) :
    Conduct (Started State) :=
  let (course, left) := library.next entry.location
  .complete number course.status <|
    .finish
      { state :=
          { left with
            operations := left.operations ++ [⟨entry.location, 0, entry.anonymous, replies⟩] } }

/-- What is left to do for an entry: to say some messages, to put some challenges, and to conclude. -/
def remainder (library : State) (number : Nat) (entry : Entry) (messages : List Console.Message)
    (todo : List Challenge) (replies : List Reply) : Conduct (Started State) :=
  .sayAll messages <|
    .askAll number todo fun more => conclusion library number entry (replies ++ more)

theorem serve_eq_remainder (library : State) (number : Nat) (entry : Entry) :
    serve library number (.fresh entry) =
      remainder library number entry (announce entry.anonymous entry.location)
        ((library.next entry.location).1.questions.map Question.challenge) [] := rfl

section Tended

variable (library : State) (entries : List Entry) (ticket verbose : Bool)

/-- Of the requests made for entries, the first have been served, and those not begun are queued and
untouched. The library has given away the courses of the served ones, and has their operations. -/
structure Tended (done begun : Nat) (requests : List Request) (queue : List (Entry × Nat))
    (left : State) : Prop where
  order : done ≤ begun ∧ begun ≤ requests.length
  finished : requests.take done =
    (entries.zipIdx.take done).map (served library entries ticket verbose)
  queued : queue = (entries.zipIdx.take requests.length).drop begun
  fresh : requests.drop begun = queue.map fun place => Request.fresh place.1
  courses : library.Left (entries.take done) left
  operations : left.operations = library.operations ++
    (entries.zipIdx.take done).map (operationAt library entries ticket verbose)

theorem getElem?_zipIdx_of_listed {entries : List Entry} {number : Nat} {entry : Entry}
    (h : entries[number]? = some entry) : entries.zipIdx[number]? = some (entry, number) := by
  rw [List.getElem?_zipIdx, h, Option.map_some, Nat.zero_add]

namespace Tended

theorem start : Tended library entries ticket verbose 0 0 [] [] library where
  order := ⟨Nat.le_refl 0, Nat.le_refl 0⟩
  finished := rfl
  queued := rfl
  fresh := rfl
  courses := .start library
  operations := (List.append_nil _).symm

variable {library entries ticket verbose} {done begun : Nat} {requests : List Request}
  {queue rest : List (Entry × Nat)} {left : State} {entry : Entry} {number : Nat}

/-- Another request is handed over. -/
theorem dispatch (h : Tended library entries ticket verbose done begun requests queue left)
    (hentry : entries[requests.length]? = some entry) :
    Tended library entries ticket verbose done begun (requests ++ [Request.fresh entry])
      (queue ++ [(entry, requests.length)]) left := by
  obtain ⟨hdone, hbegun⟩ := h.order
  refine { h with order := ⟨hdone, ?_⟩, finished := ?_, queued := ?_, fresh := ?_ }
  · rw [List.length_append]
    omega
  · rw [List.take_append_of_le_length (by omega)]
    exact h.finished
  · have hlength : begun ≤ (entries.zipIdx.take requests.length).length := by
      have hlt := (List.getElem?_eq_some_iff.mp hentry).1
      rw [List.length_take, List.length_zipIdx]
      omega
    rw [List.length_append, List.length_singleton, List.take_add_one,
      getElem?_zipIdx_of_listed hentry, List.drop_append_of_le_length hlength, ← h.queued,
      Option.toList_some]
  · rw [List.drop_append_of_le_length hbegun, h.fresh, List.map_append]
    rfl

/-- The first request of the queue is taken up. -/
theorem takeUp (h : Tended library entries ticket verbose done done requests ((entry, number) :: rest)
    left) :
    number = done ∧ entries[done]? = some entry ∧ requests[done]? = some (.fresh entry) ∧
      Tended library entries ticket verbose done (done + 1) requests rest left := by
  -- the queue is a part of the numbered entries, and its first element is the one numbered `done`
  have hfirst : (entries.zipIdx.take requests.length)[done]? = some (entry, number) := by
    rw [← Nat.add_zero done, ← List.getElem?_drop, ← h.queued]
    rfl
  have hmade : done < requests.length := by
    have hlt := (List.getElem?_eq_some_iff.mp hfirst).1
    rw [List.length_take] at hlt
    omega
  rw [List.getElem?_take_of_lt hmade, List.getElem?_zipIdx] at hfirst
  obtain ⟨found, hfound, hplace⟩ := Option.map_eq_some_iff.mp hfirst
  cases hplace
  refine ⟨Nat.zero_add done, hfound, ?_, ?_⟩
  · rw [← Nat.add_zero done, ← List.getElem?_drop, h.fresh]
    rfl
  · refine { h with order := ⟨Nat.le_succ done, hmade⟩, queued := ?_, fresh := ?_ }
    · rw [← List.drop_drop, ← h.queued]
      rfl
    · rw [← List.drop_drop, h.fresh]
      rfl

/-- What happens to the request that is being served does not touch the others. -/
theorem set (h : Tended library entries ticket verbose done (done + 1) requests queue left)
    (request : Request) :
    Tended library entries ticket verbose done (done + 1) (requests.set done request) queue left where
  order := by
    rw [List.length_set]
    exact h.order
  finished := by
    rw [List.take_set_of_le (Nat.le_refl done)]
    exact h.finished
  queued := by
    rw [List.length_set]
    exact h.queued
  fresh := by
    rw [List.drop_set_of_lt (Nat.lt_succ_self done)]
    exact h.fresh
  courses := h.courses
  operations := h.operations

/-- The request that was begun last has been served. -/
theorem finish (h : Tended library entries ticket verbose done (done + 1) requests queue left)
    (hentry : entries[done]? = some entry)
    (hserved : requests[done]? = some (served library entries ticket verbose (entry, done)))
    {after : State} (hleft : library.Left (entries.take (done + 1)) after)
    (hoperations : after.operations =
      left.operations ++ [operationAt library entries ticket verbose (entry, done)]) :
    Tended library entries ticket verbose (done + 1) (done + 1) requests queue after := by
  have htake : entries.zipIdx.take (done + 1) = entries.zipIdx.take done ++ [(entry, done)] := by
    rw [List.take_add_one, getElem?_zipIdx_of_listed hentry, Option.toList_some]
  refine { h with order := ⟨Nat.le_refl _, h.order.2⟩, finished := ?_, courses := hleft,
                  operations := ?_ }
  · rw [List.take_add_one, hserved, h.finished, htake, List.map_append]
    rfl
  · rw [hoperations, h.operations, htake, List.map_append, List.append_assoc]
    rfl

end Tended

end Tended

namespace Loop

section Remainder

variable {loop : Loop} {library : State} {number : Nat} {entry : Entry}
  {messages : List Console.Message} {todo : List Challenge} {replies : List Reply}

/-- While something is left to do, the request goes on being served. -/
theorem keep_remainder : loop.keep (remainder library number entry messages todo replies) =
    { loop with serving := some (remainder library number entry messages todo replies) } := by
  cases messages with
  | nil => cases todo <;> rfl
  | cons message rest => rfl

theorem act_message (verbose : Bool) (message : Console.Message) :
    loop.act verbose (remainder library number entry (message :: messages) todo replies) =
      { loop with serving := some (remainder library number entry messages todo replies) } :=
  keep_remainder

/-- A challenge is put to the request, and its reply is added to those before it. -/
theorem act_challenge (verbose : Bool) (challenge : Challenge) {request : Request}
    (hfound : loop.run.docket.requests[number]? = some request) :
    let asked := request.asked loop.run.ticket verbose challenge
    loop.act verbose (remainder library number entry [] (challenge :: todo)
        (request.exchanges.map Prod.snd)) =
      { loop.enter { loop.run.docket with
          requests := loop.run.docket.requests.set number asked } with
        serving := some
          (remainder library number entry [] todo (asked.exchanges.map Prod.snd)) } := by
  let replies := request.exchanges.map Prod.snd
  let answer := loop.run.docket.challenge loop.run.ticket verbose number challenge
  have hnext (reply : Reply) : (Conduct.askAll number todo fun more =>
      conclusion library number entry (replies ++ reply :: more)) =
        remainder library number entry [] todo (replies ++ [reply]) := by
    simp only [remainder, List.append_assoc, List.singleton_append]
    rfl
  intro asked
  calc
    loop.act verbose (remainder library number entry [] (challenge :: todo) replies)
      = (loop.enter answer.state).keep (.askAll number todo fun more =>
          conclusion library number entry (replies ++ answer.reply :: more)) := rfl
    _ = { loop.enter answer.state with
          serving := some (remainder library number entry [] todo (replies ++ [answer.reply])) } := by
      rw [hnext, keep_remainder]
    _ = _ := by
      simp only [answer, asked, Docket.challenge_of_found _ _ challenge hfound, Request.asked,
        List.map_append]
      rfl

/-- The end is reported, and the library is handed over. -/
theorem act_conclusion (verbose : Bool) :
    let left := (library.next entry.location).2
    loop.act verbose (remainder library number entry [] [] replies) =
      { loop.enter (loop.run.docket.complete number (library.next entry.location).1.status) with
        library := { left with
          operations := left.operations ++ [⟨entry.location, 0, entry.anonymous, replies⟩] }
        serving := none } := by
  rw [remainder, Conduct.askAll, List.append_nil]
  rfl

end Remainder

section Sound

variable (library : State) (entries : List Entry) (ticket verbose : Bool)

/-- The operations of the first entries have ended, in their order, and nothing else has been reported. -/
structure Stands (done begun : Nat) (loop : Loop) : Prop where
  sameTicket : loop.run.ticket = ticket
  reaches : (Run.start ticket entries).Reaches verbose (endsUpTo library entries done) loop.run
  tended : Tended library entries ticket verbose done begun loop.run.docket.requests loop.queue
    loop.library

/-- Between two requests the background thread is free. While it serves one, the challenges that it has
still to put would make of the request what all its challenges make of a fresh one. -/
inductive Sound (loop : Loop) : Prop where
  | free {done : Nat} (stands : Stands library entries ticket verbose done done loop)
      (free : loop.serving = none)
  | busy {done : Nat} {entry : Entry} {request : Request} {messages : List Console.Message}
      {todo : List Challenge}
      (stands : Stands library entries ticket verbose done (done + 1) loop)
      (listed : entries[done]? = some entry)
      (found : loop.run.docket.requests[done]? = some request)
      (asked : todo.foldl (Request.asked ticket verbose) request =
        (challengesAt library entries done).foldl (Request.asked ticket verbose) (.fresh entry))
      (serving : loop.serving = some (remainder loop.library done entry messages todo
        (request.exchanges.map Prod.snd)))

theorem Sound.start : Sound library entries ticket verbose (Loop.start ticket library entries) := by
  have hstands : Stands library entries ticket verbose 0 0
      (Loop.start ticket library entries) :=
    ⟨rfl, .refl verbose _, .start library entries ticket verbose⟩
  exact .free hstands rfl

end Sound

variable {library : State} {entries : List Entry} {ticket verbose : Bool} {loop next : Loop}
  {done begun : Nat} {entry : Entry} {request : Request}

namespace Stands

theorem accounted (h : Stands library entries ticket verbose done begun loop) :
    Run.Accounted entries (endsUpTo library entries done) loop.run :=
  h.reaches.accounted (Run.Accounted.start ticket entries)

/-- What reports nothing leaves the ends as they are. -/
theorem reaches_of_quiet (h : Stands library entries ticket verbose done begun loop) {run : Run}
    (hquiet : loop.run.Reaches verbose [] run) :
    (Run.start ticket entries).Reaches verbose (endsUpTo library entries done) run := by
  have hreaches := h.reaches.trans hquiet
  rwa [List.append_nil] at hreaches

/-- The entry that is dispatched next is the one whose number is the number of requests so far. -/
theorem dispatch (h : Stands library entries ticket verbose done begun loop) {rest : List Entry}
    (hrest : loop.run.undispatched = entry :: rest) :
    Stands library entries ticket verbose done begun
      { loop with
        run := { loop.run with
          undispatched := rest
          docket := loop.run.docket.openRequest entry }
        queue := loop.queue ++ [(entry, loop.run.docket.requests.length)] } where
  sameTicket := h.sameTicket
  reaches := by
    have hstep : loop.run.step? verbose .dispatch = some { loop.run with
        undispatched := rest
        docket := loop.run.docket.openRequest entry } := by
      rw [Run.step?, hrest]
    exact h.reaches_of_quiet (.of_step hstep)
  tended := by
    apply h.tended.dispatch
    -- the entries are those of the requests so far, followed by those not yet dispatched
    have hlength : (loop.run.docket.requests.map Request.entry).length =
        loop.run.docket.requests.length := List.length_map _
    rw [← h.accounted.dispatched, hrest, ← hlength, List.getElem?_append_right (Nat.le_refl _),
      Nat.sub_self]
    rfl

theorem track (h : Stands library entries ticket verbose done begun loop) {run : Run}
    (hstep : loop.run.step? verbose .track = some run) :
    Stands library entries ticket verbose done begun { loop with run := run } where
  sameTicket := (Run.ticket_step hstep).trans h.sameTicket
  reaches := h.reaches_of_quiet (.of_step hstep)
  tended := by
    cases Run.step_of_step? hstep with
    | track => exact h.tended

/-- The request that is being served is put a challenge. -/
theorem challenge (h : Stands library entries ticket verbose done (done + 1) loop)
    (hfound : loop.run.docket.requests[done]? = some request) (challenge : Challenge) :
    Stands library entries ticket verbose done (done + 1)
      (loop.enter { loop.run.docket with
        requests := loop.run.docket.requests.set done (request.asked ticket verbose challenge) }) where
  sameTicket := h.sameTicket
  reaches := by
    obtain rfl := h.sameTicket
    have hput : Run.Reaches verbose loop.run [] _ := loop.run.reaches_challenge done challenge
    rw [Docket.challenge_of_found _ verbose challenge hfound] at hput
    exact h.reaches_of_quiet hput
  tended := h.tended.set _

theorem endsUpTo_succ (library : State) (entries : List Entry) (count : Nat) :
    endsUpTo library entries (count + 1) =
      endsUpTo library entries count ++ [(count, (library.courseAt entries count).status)] := by
  rw [endsUpTo, List.range_succ, List.map_append]
  rfl

/-- A request to which all challenges have been put is served when its end has been reported. -/
theorem served_of_asked {status : Status} (hasked : request =
      (challengesAt library entries done).foldl (Request.asked ticket verbose) (.fresh entry))
    (hstatus : status = (library.courseAt entries done).status) :
    { request with reports := request.reports ++ [status] } =
      served library entries ticket verbose (entry, done) := by
  obtain ⟨gate, exchanges, hrest⟩ := Request.foldl_asked ticket verbose (.fresh entry)
    (challengesAt library entries done)
  rw [served, hasked, hstatus, hrest]
  rfl

/-- The operation that is being served ends, and is recorded with the replies to its challenges. -/
theorem conclude (h : Stands library entries ticket verbose done (done + 1) loop)
    (hlisted : entries[done]? = some entry)
    (hfound : loop.run.docket.requests[done]? = some request)
    (hasked : request =
      (challengesAt library entries done).foldl (Request.asked ticket verbose) (.fresh entry)) :
    let left := (loop.library.next entry.location).2
    Stands library entries ticket verbose (done + 1) (done + 1)
      { loop.enter (loop.run.docket.complete done (loop.library.next entry.location).1.status) with
        library := { left with
          operations := left.operations ++ [⟨entry.location, 0, entry.anonymous,
            request.exchanges.map Prod.snd⟩] }
        serving := none } := by
  obtain ⟨hcourse, hcourses⟩ := h.tended.courses.next hlisted
  obtain ⟨hmade, -⟩ := List.getElem?_eq_some_iff.mp hfound
  intro left
  rw [hcourse]
  have hserved := served_of_asked hasked rfl
  constructor
  · exact h.sameTicket
  · have hnew : done ∉ (endsUpTo library entries done).map Prod.fst := by
      simp [endsUpTo]
    have hstep : loop.run.step? verbose (.complete done (library.courseAt entries done).status) =
        some { loop.run with
          docket := loop.run.docket.complete done (library.courseAt entries done).status } := by
      rw [Run.step?, if_pos (h.accounted.inFlight hmade hnew)]
    rw [endsUpTo_succ]
    exact h.reaches.trans (.of_step hstep)
  · -- the served request is put in its place first, and then counted
    have hset := h.tended.set (served library entries ticket verbose (entry, done))
    simp only [enter, Docket.complete_of_found _ hfound, hserved]
    refine hset.finish hlisted (List.getElem?_set_self hmade) hcourses ?_
    rw [State.operations_next, hasked]
    rfl

end Stands

/-- The background thread takes up the first request of its queue. -/
theorem Stands.sound_takeUp (h : Stands library entries ticket verbose done done loop)
    {number : Nat} {rest : List (Entry × Nat)} (hqueue : loop.queue = (entry, number) :: rest) :
    Sound library entries ticket verbose
      ({ loop with queue := rest }.keep (serve loop.library number (.fresh entry))) := by
  have htended := h.tended
  rw [hqueue] at htended
  obtain ⟨rfl, hlisted, hfound, htaken⟩ := htended.takeUp
  rw [serve_eq_remainder, (htaken.courses.next hlisted).1, keep_remainder]
  exact .busy ⟨h.sameTicket, h.reaches, htaken⟩ hlisted hfound rfl rfl

/-- It does one thing for the request that it serves. -/
theorem Stands.sound_act (h : Stands library entries ticket verbose done (done + 1) loop)
    {messages : List Console.Message} {todo : List Challenge}
    (hlisted : entries[done]? = some entry)
    (hfound : loop.run.docket.requests[done]? = some request)
    (hasked : todo.foldl (Request.asked ticket verbose) request =
      (challengesAt library entries done).foldl (Request.asked ticket verbose) (.fresh entry)) :
    Sound library entries ticket verbose (loop.act verbose
      (remainder loop.library done entry messages todo (request.exchanges.map Prod.snd))) := by
  cases messages with
  | cons message rest =>
      rw [act_message]
      exact .busy ⟨h.sameTicket, h.reaches, h.tended⟩ hlisted hfound hasked rfl
  | nil =>
      cases todo with
      | cons challenge rest =>
          have hafter := h.challenge hfound challenge
          obtain ⟨hmade, -⟩ := List.getElem?_eq_some_iff.mp hfound
          rw [act_challenge verbose challenge hfound, h.sameTicket]
          exact .busy ⟨hafter.sameTicket, hafter.reaches, hafter.tended⟩ hlisted
            (List.getElem?_set_self hmade) hasked rfl
      | nil =>
          rw [act_conclusion]
          exact .free (h.conclude hlisted hfound hasked) rfl

/-- No step upsets what the background thread has done. -/
theorem Sound.step (h : Sound library entries ticket verbose loop) {action : Action}
    (hstep : loop.step? verbose action = some next) : Sound library entries ticket verbose next := by
  cases action with
  | dispatch =>
      cases hrest : loop.run.undispatched with
      | nil => simp [step?, hrest] at hstep
      | cons entry rest =>
          simp only [step?, hrest, Option.some.injEq] at hstep
          subst hstep
          cases h with
          | free stands free => exact .free (stands.dispatch hrest) free
          | busy stands listed found asked serving =>
              -- the new request comes after the one that is being served
              refine .busy (stands.dispatch hrest) listed ?_ asked serving
              obtain ⟨hmade, -⟩ := List.getElem?_eq_some_iff.mp found
              exact (List.getElem?_append_left hmade).trans found
  | turn =>
      cases h with
      | free stands free =>
          cases hqueue : loop.queue with
          | nil => simp [step?, free, hqueue] at hstep
          | cons place rest =>
              simp only [step?, free, hqueue, Option.some.injEq] at hstep
              subst hstep
              exact stands.sound_takeUp hqueue
      | busy stands listed found asked serving =>
          simp only [step?, serving, Option.some.injEq] at hstep
          subst hstep
          exact stands.sound_act listed found asked
  | track =>
      obtain ⟨run, hrun, rfl⟩ := Option.map_eq_some_iff.mp hstep
      cases h with
      | free stands free => exact .free (stands.track hrun) free
      | busy stands listed found asked serving =>
          refine .busy (stands.track hrun) listed ?_ asked serving
          cases Run.step_of_step? hrun with
          | track => exact found

theorem Sound.steps (h : Sound library entries ticket verbose loop) {actions : List Action}
    (hsteps : loop.steps? verbose actions = some next) :
    Sound library entries ticket verbose next := by
  induction actions generalizing loop with
  | nil =>
      cases hsteps
      exact h
  | cons action rest ih =>
      rw [steps?] at hsteps
      cases hstep : loop.step? verbose action with
      | none => simp [hstep] at hsteps
      | some middle =>
          rw [hstep] at hsteps
          exact ih (h.step hstep) hsteps

end Loop

end InProcess

end SessionMounts
