import SessionMounts.Mounting.Scripted

/-!
Mounting in the process itself, through the desktop's input and output library. All operations
are served in turn by one background thread; what each will be asked and how it ends is prepared
here for each location.
-/

namespace SessionMounts.InProcess

open Auth (Challenge Reply)
open Mounting (Docket Status Failure Request Conduct Started Provider Run)

/-- An error that the library reports: a code within a domain, and a message. -/
structure Error where
  domain : String
  code : Int
  message : String
  deriving DecidableEq, Repr

def ioDomain : String := "g-io-error-quark"

/-- The names of the input and output errors, by their codes from 0 on. -/
def errorNames : List String :=
  ["failed", "not-found", "exists", "is-directory", "not-directory", "not-empty",
   "not-regular-file", "not-symbolic-link", "not-mountable-file", "filename-too-long",
   "invalid-filename", "too-many-links", "no-space", "invalid-argument", "permission-denied",
   "not-supported", "not-mounted", "already-mounted", "closed", "cancelled", "pending",
   "read-only", "cant-create-backup", "wrong-etag", "timed-out", "would-recurse", "busy",
   "would-block", "host-not-found", "would-merge", "failed-handled", "too-many-open-files",
   "not-initialized", "address-in-use", "partial-input", "invalid-data", "dbus-error",
   "host-unreachable", "network-unreachable", "connection-refused", "proxy-failed",
   "proxy-auth-failed", "proxy-need-auth", "proxy-not-allowed", "broken-pipe", "not-connected",
   "message-too-large", "no-such-device", "destination-unset"]

/-- The kind of the failure that an error makes: its name, or the general kind for an error that
has none or comes from elsewhere. -/
def Error.kind (error : Error) : String :=
  if error.domain = ioDomain ∧ 0 ≤ error.code then
    errorNames[error.code.toNat]?.getD Failure.failed
  else Failure.failed

def Error.failure (error : Error) : Failure :=
  ⟨error.kind, error.message⟩

/-- A request for a password; a text that is absent counts as empty. -/
structure Question where
  message : Option String := none
  user : Option String := none
  domain : Option String := none
  flags : Int := 0
  deriving DecidableEq, Repr

/-- The flag by which a location offers anonymous access, fifth bit of the flags. -/
def Question.offersAnonymous (question : Question) : Bool :=
  question.flags / 16 % 2 == 1

def Question.challenge (question : Question) : Challenge where
  message := question.message.getD ""
  defaultUser := question.user.getD ""
  defaultDomain := question.domain.getD ""
  anonymousSupported := question.offersAnonymous

/-- The course of an operation: all its questions are asked, whatever the replies, and then it
succeeds or ends with an error. -/
structure Course where
  questions : List Question := []
  error : Option Error := none
  deriving DecidableEq, Repr

def Course.status (course : Course) : Status :=
  match course.error with
  | none => .done
  | some error => .failed error.failure

/-- An operation that took place: its location, whether anonymous credentials were set on it, and
its replies. -/
structure Operation where
  location : String
  flags : Nat
  anonymous : Bool
  replies : List Reply
  deriving DecidableEq, Repr

/-- The courses prepared for each location, and the operations so far. -/
structure State where
  courses : Prepared Course := []
  operations : List Operation := []
  deriving DecidableEq, Repr

/-- The course of the next operation on a location; one that is not prepared succeeds. -/
def State.next (state : State) (location : String) : Course × State :=
  match state.courses.take? location with
  | some (course, courses) => (course, { state with courses := courses })
  | none => ({}, state)

def serve (state : State) (number : Nat) (request : Request) :
    Conduct (Started State) :=
  let location := request.entry.location
  let anonymous := request.gate.anonymous
  let (course, state) := state.next location
  .sayAll (Mounting.announce anonymous location) <|
    .askAll number (course.questions.map Question.challenge) fun replies =>
      let operation := ⟨location, request.flags, anonymous, replies⟩
      .complete number course.status <|
        .finish ⟨{ state with operations := state.operations ++ [operation] }, none⟩

/-- The provider that mounts in the process itself, on a background thread. -/
def provider : Provider State where
  start := serve
  background := true

/-! ### Two threads in small steps

The main thread hands a request over by queueing it and goes on; the background thread takes the
requests up in the order in which they were queued, and comes to the end of one before it takes up the
next. How the steps of the two follow on one another is left open. -/

/-- What both threads share: the run as the main thread sees it, the library, the entries queued with
their numbers, and what is left to do for the request that is being served. -/
structure Loop where
  run : Run
  library : State
  queue : List (Entry × Nat) := []
  serving : Option (Conduct (Started State)) := none

namespace Loop

def start (ticket : Bool) (library : State) (entries : List Entry) : Loop where
  run := .start ticket entries
  library := library

/-- A step of the main thread, which makes a request or takes a completion, or one of the background
thread. -/
inductive Action where
  | dispatch
  | turn
  | track
  deriving DecidableEq, Repr

/-- Keeps what is left to do for a request. The thread is free when that is only to hand over the
library. -/
def keep (loop : Loop) : Conduct (Started State) → Loop
  | .finish started => { loop with library := started.state, serving := none }
  | conduct => { loop with serving := some conduct }

def enter (loop : Loop) (docket : Docket) : Loop :=
  { loop with run := { loop.run with docket := docket } }

/-- The background thread does one thing for the request that it serves. -/
def act (verbose : Bool) (loop : Loop) : Conduct (Started State) → Loop
  | .finish started => loop.keep (.finish started)
  | .say _ next => loop.keep next
  | .ask number challenge next =>
    let answer := loop.run.docket.challenge loop.run.ticket verbose number challenge
    (loop.enter answer.state).keep (next answer.reply)
  | .complete number status next =>
    (loop.enter (loop.run.docket.complete number status)).keep next

/-- The state after a step, or nothing where the step cannot happen. -/
def step? (verbose : Bool) (loop : Loop) : Action → Option Loop
  | .dispatch =>
    match loop.run.undispatched with
    | [] => none
    | entry :: rest =>
      some { loop with
        run := { loop.run with
          undispatched := rest
          docket := loop.run.docket.openRequest entry }
        queue := loop.queue ++ [(entry, loop.run.docket.requests.length)] }
  | .turn =>
    match loop.serving, loop.queue with
    | some conduct, _ => some (loop.act verbose conduct)
    | none, (entry, number) :: rest =>
      some ({ loop with queue := rest }.keep (serve loop.library number (.fresh entry)))
    | none, [] => none
  | .track => (loop.run.step? verbose .track).map fun run => { loop with run := run }

def steps? (verbose : Bool) (loop : Loop) : List Action → Option Loop
  | [] => some loop
  | action :: rest =>
    match loop.step? verbose action with
    | none => none
    | some next => next.steps? verbose rest

end Loop

end SessionMounts.InProcess
