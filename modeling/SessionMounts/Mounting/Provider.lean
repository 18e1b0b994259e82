import SessionMounts.Mounting.Docket

/-!
Providers attach locations, and a run mounts a list of entries with one provider. The entries are
dispatched in order, each as a request with a fresh gate; then the completions are settled and the
failures judged. A provider that refuses a request ends the dispatch and the run.
-/

namespace SessionMounts.Mounting

open Auth (Challenge)
open Console (Log Output)

inductive Refusal where
  | unsupported
  | fault (text : String)
  deriving DecidableEq, Repr

def Refusal.message : Refusal → String
  | .unsupported => ""
  | .fault text => text

/-- A provider's state after a request, and the refusal if it did not accept it. -/
structure Started (σ : Type) where
  state : σ
  refusal : Option Refusal := none

/-- The debug messages of an operation that is given anonymous credentials. -/
def announce (anonymous : Bool) (location : String) : List Console.Message :=
  if anonymous then [⟨.debug, "Anonymous mount requested for " ++ location⟩] else []

/-- A provider with states of type `σ`: what building an instance does, what it does with the
request of a given number, what it does on its own after the last request has been made, and what
closing the instance does. What it prints may come from a background thread. -/
structure Provider (σ : Type) where
  build : σ → σ := id
  start : σ → (number : Nat) → Request → Conduct (Started σ)
  settle : σ → Conduct σ := .finish
  close : σ → σ := id
  background : Bool := false

def Provider.refusing (σ : Type) : Provider σ where
  start := fun state _ _ => .finish ⟨state, some .unsupported⟩

/-- A provider as one that keeps its states within larger ones. -/
def Provider.within {σ ω : Type} (provider : Provider σ) (view : ω → σ) (update : ω → σ → ω) :
    Provider ω where
  build := fun whole => update whole (provider.build (view whole))
  start := fun whole number request =>
    (provider.start (view whole) number request).map fun started =>
      ⟨update whole started.state, started.refusal⟩
  settle := fun whole => (provider.settle (view whole)).map (update whole)
  close := fun whole => update whole (provider.close (view whole))
  background := provider.background

/-- What a run does that others can see, apart from what providers do. -/
inductive Act where
  | built
  | dispatched (request : Request)
  | consumed (completion : Completion)
  | closed
  deriving DecidableEq, Repr

/-- The state after entries have been dispatched. -/
structure Dispatched (σ : Type) where
  state : σ
  docket : Docket
  made : List Request
  refusal : Option Refusal
  output : Output

variable {σ : Type}

/-- What a provider prints, on the thread that it uses. -/
def Provider.printing (provider : Provider σ) (log : Log) : Output :=
  if provider.background then .back log else .front log

/-- Makes the request for one entry and lets the provider serve it. -/
def Provider.request (provider : Provider σ) (ticket verbose : Bool) (state : σ)
    (docket : Docket) (entry : Entry) : Dispatched σ :=
  let number := docket.requests.length
  let request := Request.fresh entry
  let played := (provider.start state number request).run verbose
    (Docket.party ticket verbose) (docket.openRequest entry)
  { state := played.value.state
    docket := played.state
    made := [request]
    refusal := played.value.refusal
    output := provider.printing played.log }

/-- Dispatches entries in their order, up to the first that is refused. -/
def Provider.dispatch (provider : Provider σ) (ticket verbose : Bool) (state : σ)
    (docket : Docket) : List Entry → Dispatched σ
  | [] => ⟨state, docket, [], none, {}⟩
  | entry :: rest =>
    let announced := Output.front (Console.debug verbose ("Mounting entry " ++ entry.location))
    let first := provider.request ticket verbose state docket entry
    match first.refusal with
    | some _ => { first with output := announced ++ first.output }
    | none =>
      let others := provider.dispatch ticket verbose first.state first.docket rest
      { others with
        made := first.made ++ others.made
        output := announced ++ first.output ++ others.output }

/-- How mounting a list of entries ends. It waits if the provider never reports the end of some
operation. -/
inductive Ending where
  | mounted
  | failed (failures : Failures)
  | refused (refusal : Refusal)
  | waiting
  deriving DecidableEq, Repr

/-- The state after a list of entries has been mounted. -/
structure Mounted (σ : Type) where
  state : σ
  docket : Docket
  ending : Ending
  acts : List Act
  output : Output

/-- How a run ends whose requests were all accepted, and what is printed at the end. -/
def Settlement.Drained.judge (drained : Settlement.Drained) : Ending × Log :=
  if drained.waiting then (.waiting, [])
  else
    let failures := drained.settlement.failures
    match Verdict.ofFailures failures with
    | .allMounted => (.mounted, Verdict.report failures)
    | .someFailed failures => (.failed failures, Verdict.report failures)

/-- Mounts a list of entries: dispatches all, lets the provider finish, settles all, and judges the
failures. Completions are taken in the order of their reports, so it does not matter whether the
provider reports them before or while they are taken. -/
def Provider.mount (provider : Provider σ) (ticket verbose : Bool) (state : σ)
    (entries : List Entry) : Mounted σ :=
  match entries with
  | [] => ⟨state, {}, .mounted, [], {}⟩
  | _ :: _ =>
    let dispatched := provider.dispatch ticket verbose state {} entries
    match dispatched.refusal with
    | some refusal =>
      ⟨dispatched.state, dispatched.docket, .refused refusal, dispatched.made.map .dispatched,
        dispatched.output⟩
    | none =>
      let settled := (provider.settle dispatched.state).run verbose (Docket.party ticket verbose)
        dispatched.docket
      let drained := Settlement.drain verbose ⟨entries.length, []⟩ settled.state.channel
      let (ending, log) := drained.judge
      { state := settled.value
        docket := { settled.state with channel := drained.unread }
        ending := ending
        acts := dispatched.made.map .dispatched ++ drained.taken.map .consumed
        output := dispatched.output ++ provider.printing settled.log ++
          .front (drained.log ++ log) }

/-! ### A run in small steps

A provider may act at any moment: while a request is made, between requests, and after the last one.
A step is a guarded use of the operations that a mounting run is made of, so every run of a provider
that reports each operation once is a path through this system. -/

/-- The state of a run: the entries not yet dispatched, whether a ticket cache is named, the
docket, the settlement, and the completions taken so far. -/
structure Run where
  undispatched : List Entry
  ticket : Bool
  docket : Docket
  settlement : Settlement
  taken : List Completion
  deriving DecidableEq, Repr

namespace Run

def start (ticket : Bool) (entries : List Entry) : Run where
  undispatched := entries
  ticket := ticket
  docket := {}
  settlement := ⟨entries.length, []⟩
  taken := []

inductive Action where
  | dispatch
  | challenge (number : Nat) (challenge : Challenge)
  | complete (number : Nat) (status : Status)
  | ticket (named : Bool)
  | track
  deriving DecidableEq, Repr

def made (run : Run) (number : Nat) : Bool :=
  number < run.docket.requests.length

/-- The request of this number has been made and its operation has not ended. -/
def inFlight (run : Run) (number : Nat) : Bool :=
  run.docket.requests[number]?.any fun request => request.reports.isEmpty

/-- The state after an action, or nothing where the action cannot happen: completions are taken
only after the last dispatch, a provider puts challenges only for requests that have been made, and
it reports the end of an operation only once. -/
def step? (verbose : Bool) (run : Run) : Action → Option Run
  | .dispatch =>
    match run.undispatched with
    | [] => none
    | entry :: rest =>
      some { run with undispatched := rest, docket := run.docket.openRequest entry }
  | .challenge number challenge =>
    if run.made number then
      some { run with docket := (run.docket.challenge run.ticket verbose number challenge).state }
    else none
  | .complete number status =>
    if run.inFlight number then some { run with docket := run.docket.complete number status }
    else none
  | .ticket named => some { run with ticket := named }
  | .track =>
    if run.undispatched.isEmpty then
      match run.docket.channel with
      | [] => none
      | completion :: rest =>
        match run.settlement.record verbose completion with
        | .error _ => none
        | .ok (settlement, _) =>
          some { run with
            docket := { run.docket with channel := rest }
            settlement := settlement
            taken := run.taken ++ [completion] }
    else none

/-- The state after several actions, or nothing if one of them cannot happen. -/
def steps? (verbose : Bool) (run : Run) : List Action → Option Run
  | [] => some run
  | action :: rest =>
    match run.step? verbose action with
    | none => none
    | some next => next.steps? verbose rest

end Run

end SessionMounts.Mounting
