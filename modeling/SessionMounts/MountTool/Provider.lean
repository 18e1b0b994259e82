import SessionMounts.MountTool.Dialogue
import SessionMounts.Mounting.Scripted

/-!
Mounting by an external tool. Every request runs a child process of its own; what the children do
is prepared here for each location. A worker thread leads the interview with the child and reports
the end of the operation. Output that cannot be decoded ends the worker before it can report
anything.
-/

namespace SessionMounts.MountTool

open Mounting (Status Failure Request Conduct Started Provider)

/-! ### The reason of a failure

The last line that the tool printed, or its exit status when it printed nothing. -/

/-- The lines of an output, trimmed, without the blank ones. -/
def reasonLines (output : List Char) : List (List Char) :=
  ((Text.lines output).map Text.trim).filter fun line => !line.isEmpty

/-- The exit status of a child, which has none when it was killed. -/
abbrev ExitStatus := Option Int

def reason (output : List Char) (status : ExitStatus) : List Char :=
  match (reasonLines output).getLast? with
  | some line => line
  | none =>
    "gio exited with status ".toList ++
      match status with
      | some code => (toString code).toList
      | none => "None".toList

/-- The words, in any case, by which the tool says that the location was mounted before. -/
def alreadyMountedPhrase : List Char := "already mounted".toList

def holds (part : List Char) : List Char → Bool
  | [] => part.isEmpty
  | c :: rest => part.isPrefixOf (c :: rest) || holds part rest

/-- The failure of a tool that printed this output. Only ASCII letters are compared without
regard to case: no other character becomes one of the phrase's letters in lower case. -/
def failureOf (output : List Char) (status : ExitStatus) : Failure :=
  let message := reason output status
  { kind := if holds alreadyMountedPhrase (message.map Char.toLower) then Failure.alreadyMounted
      else Failure.failed
    message := String.ofList message }

/-! ### The interview

A challenge is put at the first prompt and at the first one after each password prompt, so one challenge
spans the prompts for user, domain and password. While the replies are to go on, every prompt is
answered by an empty line: defaults are kept and the password stays empty, which makes the tool use a
ticket. At any other reply the tool is stopped. -/

/-- What can be done to a child: a line is sent to it, it is terminated, it is closed. -/
inductive Deed where
  | send
  | terminate
  | close
  deriving DecidableEq, Repr

/-- What was done to a child that was started: the lines sent, whether each termination was forced,
how often it was closed, how many reads of its output never took place, and the order of all that
was done. -/
structure Transcript where
  sent : List String := []
  terminated : List Bool := []
  closes : Nat := 0
  unread : Nat := 0
  deeds : List Deed := []
  deriving DecidableEq, Repr

/-- The kind of a failure that was dealt with during authentication. -/
def failedHandled : String := "failed-handled"

def authenticationAborted (location : String) : Failure :=
  ⟨failedHandled, "Authentication aborted for " ++ location⟩

/-- The end of an operation whose child ended by itself. -/
def statusOf (output : List Char) (status : ExitStatus) : Status :=
  if status = some 0 then .done else .failed (failureOf output status)

/-- What came of an interview: what was done to the child, and the status of the operation or the
trouble that stopped it. -/
structure Interviewed where
  transcript : Transcript
  result : Except Trouble Status

/-- The challenge that is put at a prompt: the text since the prompt before it. -/
def challengeAt (before : List Char) : Auth.Challenge where
  message := String.ofList (Text.trim before)

def Transcript.answered (transcript : Transcript) : Transcript :=
  { transcript with
    sent := transcript.sent ++ [""]
    deeds := transcript.deeds ++ [.send] }

def Transcript.closed (transcript : Transcript) : Transcript :=
  { transcript with
    closes := transcript.closes + 1
    deeds := transcript.deeds ++ [.close] }

/-- The child is terminated by force and then closed. -/
def Transcript.stopped (transcript : Transcript) (unread : Nat) : Transcript :=
  Transcript.closed
    { transcript with
      terminated := transcript.terminated ++ [true]
      unread := unread
      deeds := transcript.deeds ++ [.terminate] }

/-- Goes through a dialogue; `accepted` tells whether the challenge that spans the next prompt has
been answered. -/
def interview (request : Nat) (location : String) (status : ExitStatus) :
    Dialogue → (accepted : Bool) → Transcript → Conduct Interviewed
  | .ended before, _, transcript =>
    .finish ⟨transcript.closed, .ok (statusOf before status)⟩
  | .broken trouble unread, _, transcript =>
    .finish ⟨{ transcript with unread := unread }, .error trouble⟩
  | .prompt kind _ _ _ next, true, transcript =>
    interview request location status next (kind ≠ .password) transcript.answered
  | .prompt kind before _ unread next, false, transcript =>
    .ask request (challengeAt before) fun reply =>
      if reply = .handled then
        interview request location status next (kind ≠ .password) transcript.answered
      else
        .finish ⟨transcript.stopped unread, .ok (.failed (authenticationAborted location))⟩

/-! ### The provider -/

inductive Unstarted where
  | unavailable (text : String)
  | system (error : SystemError)
  deriving DecidableEq, Repr

def Unstarted.trouble : Unstarted → Trouble
  | .unavailable text => .unavailable text
  | .system error => .system error

/-- What happens when the tool is started for a location: starting it fails, or there is a child with
some output and an exit status. -/
inductive Child where
  | failing (cause : Unstarted)
  | running (reads : List Read) (status : ExitStatus)
  deriving DecidableEq, Repr

/-- One start of the tool: the words of its command line, the worker thread if it was not started by
the main thread, and what was done to the child if there was one. -/
structure Launch where
  words : List String
  worker : Option String
  transcript : Option Transcript
  deriving DecidableEq, Repr

/-- The children prepared for each location, the launches so far, the number of workers of the
current instance, and the troubles that ended workers. -/
structure State where
  children : Prepared Child := []
  launches : List Launch := []
  workers : Nat := 0
  deaths : List Trouble := []
  deriving DecidableEq, Repr

def notFound (command : String) : Unstarted :=
  .unavailable ("The command was not found or was not executable: " ++ command ++ ".")

/-- Starts the tool for a location; a child that is not prepared cannot be started. -/
def State.launch (state : State) (command location : String) : Child × State :=
  match state.children.take? location with
  | some (child, children) => (child, { state with children := children })
  | none => (.failing (notFound command), state)

def words (command location : String) (anonymous : Bool) : List String :=
  [command, "mount"] ++ (if anonymous then ["--anonymous"] else []) ++ [location]

def State.note (state : State) (launch : Launch) : State :=
  { state with launches := state.launches ++ [launch] }

/-- Mounts a location and waits for the tool. The result is the trouble that stopped it, or the
status of the operation. -/
def mount (command : String) (worker : Option String) (state : State) (request : Nat)
    (location : String) (anonymous : Bool) : Conduct (Except Trouble Status × State) :=
  let words := words command location anonymous
  .sayAll (Mounting.announce anonymous location) <|
    match state.launch command location with
    | (.failing cause, state) => .finish (.error cause.trouble, state.note ⟨words, worker, none⟩)
    | (.running reads status, state) =>
      (interview request location status (.ofOutput reads) false {}).bind fun interviewed =>
        .finish (interviewed.result, state.note ⟨words, worker, some interviewed.transcript⟩)

/-- What a worker does once the tool has ended: a trouble is a failure of the operation, but output
that cannot be decoded ends the worker. -/
def report (request : Nat) (result : Except Trouble Status) (state : State) :
    Conduct (Started State) :=
  match result with
  | .ok status => .complete request status (.finish ⟨state, none⟩)
  | .error (.undecodable fault) =>
    .finish ⟨{ state with deaths := state.deaths ++ [.undecodable fault] }, none⟩
  | .error trouble =>
    .say (Console.warning ("Error during mount operation: " ++ trouble.message)) <|
      .complete request (.failed ⟨Failure.failed, trouble.message⟩) (.finish ⟨state, none⟩)

def State.nextWorker (state : State) : String :=
  "usermount-" ++ toString state.workers

/-- Serves a request by a worker of its own, which runs to its end at once. -/
def serve (command : String) (state : State) (number : Nat) (request : Request) :
    Conduct (Started State) :=
  let worker := state.nextWorker
  let state := { state with workers := state.workers + 1 }
  (mount command (some worker) state number request.entry.location
      request.gate.anonymous).bind fun (result, state) => report number result state

def defaultCommand : String := "gio"

/-- The provider that mounts by a tool. A new instance counts its workers from zero. -/
def provider (command : String) : Provider State where
  build := fun state => { state with workers := 0 }
  start := serve command

end SessionMounts.MountTool
