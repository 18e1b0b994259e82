import SessionMounts.Auth.Gate
import SessionMounts.Entry
import SessionMounts.Mounting.Settlement

/-!
What a provider does, and what is kept of it. A conduct is the tree of a provider's visible acts: it
prints messages, puts challenges to the handler of a request and goes on as the replies say, reports
the ends of operations, and at last hands over a value. Running a conduct against a party plays the
acts in their order; the party answers the challenges and hears of the ends. The docket of a run is the
party to all its requests.
-/

namespace SessionMounts.Mounting

open Auth (Challenge Reply Answer Handler Gate)
open Console (Message Log)

/-- The acts of a provider up to the value that it hands over. -/
inductive Conduct (α : Type) where
  | finish (value : α)
  | say (message : Message) (next : Conduct α)
  | ask (request : Nat) (challenge : Challenge) (next : Reply → Conduct α)
  | complete (request : Nat) (status : Status) (next : Conduct α)

/-- Whoever a provider deals with: the handlers of all requests, and the listener to their ends. -/
structure Party (τ : Type) where
  answer : τ → (request : Nat) → Challenge → Answer τ
  complete : τ → (request : Nat) → Status → τ

/-- One handler of challenges as a party that does not listen to the ends of operations. -/
def Party.ofHandler {τ : Type} (handler : Handler τ) : Party τ where
  answer := fun state _ challenge => handler state challenge
  complete := fun state _ _ => state

namespace Conduct

variable {α β τ : Type}

/-- Goes on with another conduct once the value is there. -/
def bind : Conduct α → (α → Conduct β) → Conduct β
  | finish value, rest => rest value
  | say message next, rest => say message (next.bind rest)
  | ask request challenge next, rest => ask request challenge fun reply => (next reply).bind rest
  | complete request status next, rest => complete request status (next.bind rest)

def map (f : α → β) (conduct : Conduct α) : Conduct β :=
  conduct.bind fun value => finish (f value)

def sayAll (messages : List Message) (next : Conduct α) : Conduct α :=
  messages.foldr say next

/-- Puts several challenges, whatever the replies are, and hands over the replies. -/
def askAll (request : Nat) : List Challenge → (List Reply → Conduct α) → Conduct α
  | [], next => next []
  | challenge :: rest, next =>
    ask request challenge fun reply => askAll request rest fun replies => next (reply :: replies)

def completeAll (completions : List (Nat × Status)) (next : Conduct α) : Conduct α :=
  completions.foldr (fun completion => complete completion.1 completion.2) next

/-- What came of a conduct: the value handed over, the party's state, the challenges put with
their replies, and what was printed. -/
structure Performance (τ α : Type) where
  value : α
  state : τ
  exchanges : List (Challenge × Reply)
  log : Log

/-- Plays a conduct against a party. -/
def run (verbose : Bool) (party : Party τ) : Conduct α → τ → Performance τ α
  | finish value, state => ⟨value, state, [], []⟩
  | say message next, state =>
    let rest := next.run verbose party state
    { rest with log := Console.printed verbose message ++ rest.log }
  | ask request challenge next, state =>
    let answer := party.answer state request challenge
    let rest := (next answer.reply).run verbose party answer.state
    { rest with
      exchanges := (challenge, answer.reply) :: rest.exchanges
      log := answer.log ++ rest.log }
  | complete request status next, state =>
    next.run verbose party (party.complete state request status)

end Conduct

/-! ### The docket

The mount requests stand in the order in which they were made, each with a gate of its own, beside the
channel on which the ends of their operations arrive. -/

/-- One mount request: the entry, the mount flags, of which none is ever set, the gate that answers
its challenges, the challenges so far with their replies, and the ends reported so far. -/
structure Request where
  entry : Entry
  flags : Nat := 0
  gate : Gate
  exchanges : List (Challenge × Reply) := []
  reports : List Status := []
  deriving DecidableEq, Repr

/-- A request that nothing has happened to. -/
def Request.fresh (entry : Entry) : Request where
  entry := entry
  gate := { anonymous := entry.anonymous }

/-- The requests of a run, and the completions that nobody has taken yet. -/
structure Docket where
  requests : List Request := []
  channel : List Completion := []
  deriving DecidableEq, Repr

namespace Docket

def openRequest (docket : Docket) (entry : Entry) : Docket :=
  { docket with requests := docket.requests ++ [Request.fresh entry] }

/-- Puts a challenge to the gate of a request; without such a request nobody answers. -/
def challenge (ticket verbose : Bool) (docket : Docket) (number : Nat) (challenge : Challenge) :
    Answer Docket :=
  match docket.requests[number]? with
  | none => ⟨.unhandled, docket, []⟩
  | some request =>
    let answer := request.gate.answer ticket verbose challenge
    let asked := { request with
      gate := answer.state
      exchanges := request.exchanges ++ [(challenge, answer.reply)] }
    ⟨answer.reply, { docket with requests := docket.requests.set number asked }, answer.log⟩

/-- Reports the end of a request's operation: one completion with the request's own location goes
to the end of the channel. -/
def complete (docket : Docket) (number : Nat) (status : Status) : Docket :=
  match docket.requests[number]? with
  | none => docket
  | some request =>
    let reported := { request with reports := request.reports ++ [status] }
    { requests := docket.requests.set number reported
      channel := docket.channel ++ [⟨request.entry.location, status⟩] }

/-- The docket as the party that a provider deals with. -/
def party (ticket verbose : Bool) : Party Docket where
  answer := challenge ticket verbose
  complete := complete

end Docket

end SessionMounts.Mounting
