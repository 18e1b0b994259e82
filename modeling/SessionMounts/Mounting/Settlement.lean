import SessionMounts.Console
import SessionMounts.Text.Quoted

/-!
How mount operations end, and what comes of it. An operation is done, or it failed with a kind and a
message; providers are expected to report nothing else, but whatever they report is kept and shown.
Settling a run takes the completions one after another from a channel until none is outstanding, keeps
the failures in the order of their arrival, and leads to a verdict.
-/

namespace SessionMounts.Mounting

open Console (Log)

structure Failure where
  kind : String
  message : String
  deriving DecidableEq, Repr

namespace Failure

/-- The kind of a failure for which no other kind is known. -/
def failed : String := "failed"

/-- The kind of a failure that is none: the location was mounted before. -/
def alreadyMounted : String := "already-mounted"

/-- Whether the location was mounted before. -/
def isAlreadyMounted (failure : Failure) : Bool :=
  failure.kind == alreadyMounted

def text (failure : Failure) : String :=
  failure.message ++ " (" ++ failure.kind ++ ")"

end Failure

/-- The locations that failed and why, in the order of their completions. -/
abbrev Failures := List (String × Failure)

def Failures.text (failures : Failures) : String :=
  "failed to mount: " ++ ", ".intercalate (failures.map Prod.fst)

/-! ### Statuses -/

/-- A report that is no proper end of an operation: that authentication is still going on, or a
value of some other kind. -/
inductive Stray where
  | asked
  | nothing
  | flag (value : Bool)
  | number (value : Int)
  | text (value : String)
  deriving DecidableEq, Repr

def Stray.shown : Stray → String
  | .asked => "<MountStatus.ASKED: 'asked'>"
  | .nothing => "None"
  | .flag true => "True"
  | .flag false => "False"
  | .number value => toString value
  | .text value => Text.Quoted.quote value

/-- What an operation reports at its end. -/
inductive Status where
  | done
  | failed (failure : Failure)
  | stray (report : Stray)
  deriving DecidableEq, Repr

def Status.failure? : Status → Option Failure
  | .failed failure => some failure
  | _ => none

/-- The end of the operation that mounts a location. -/
structure Completion where
  location : String
  status : Status
  deriving DecidableEq, Repr

/-- The locations that failed among the completions, in their order. -/
def failures (completions : List Completion) : Failures :=
  completions.filterMap fun completion =>
    completion.status.failure?.map fun failure => (completion.location, failure)

theorem failures_append (front back : List Completion) :
    failures (front ++ back) = failures front ++ failures back := by
  simp [failures]

/-! ### Settling a run -/

/-- How many completions are outstanding, and the failures so far. -/
structure Settlement where
  outstanding : Int
  failures : Failures := []
  deriving DecidableEq, Repr

namespace Settlement

def report (verbose : Bool) (completion : Completion) : Log :=
  match completion.status with
  | .done => Console.debug verbose ("Mounting of " ++ completion.location ++ " was successful")
  | .failed _ => [Console.warning ("Failed when mounting " ++ completion.location)]
  | .stray value => [Console.error ("Unexpected return status: " ++ value.shown)]

def take (settlement : Settlement) (completion : Completion) : Settlement where
  outstanding := settlement.outstanding - 1
  failures := settlement.failures ++ Mounting.failures [completion]

/-- No completion is outstanding. -/
def settled (settlement : Settlement) : Bool :=
  settlement.outstanding == 0

/-- A completion arrived although none was outstanding. -/
structure Surplus where
  completion : Completion
  deriving DecidableEq, Repr

def Surplus.message (surplus : Surplus) : String :=
  "Completion for " ++ surplus.completion.location ++ " received after all mounts settled"

/-- Takes one completion and reports it; refused when none is outstanding. -/
def record (verbose : Bool) (settlement : Settlement) (completion : Completion) :
    Except Surplus (Settlement × Log) :=
  if settlement.settled then .error ⟨completion⟩
  else .ok (settlement.take completion, report verbose completion)

/-- The state in which taking completions from a channel ends: the settlement, the completions
taken and those still unread, and what was printed. It waits if completions are still outstanding
and the channel is empty. -/
structure Drained where
  settlement : Settlement
  taken : List Completion
  unread : List Completion
  log : Log
  deriving DecidableEq, Repr

/-- Nothing more can be taken although completions are outstanding. -/
def Drained.waiting (drained : Drained) : Bool :=
  !drained.settlement.settled

/-- Takes completions from a channel until none is outstanding or the channel is empty. -/
def drain (verbose : Bool) (settlement : Settlement) : List Completion → Drained
  | [] => ⟨settlement, [], [], []⟩
  | completion :: rest =>
    match settlement.record verbose completion with
    | .error _ => ⟨settlement, [], completion :: rest, []⟩
    | .ok (next, log) =>
      let drained := drain verbose next rest
      { drained with taken := completion :: drained.taken, log := log ++ drained.log }

end Settlement

/-! ### The verdict

A location that was mounted before counts as mounted; any other failure makes the run a failed one. -/

/-- The outcome of a run whose operations have all completed. -/
inductive Verdict where
  | allMounted
  | someFailed (failures : Failures)
  deriving DecidableEq, Repr

def Verdict.ofFailures (failures : Failures) : Verdict :=
  if failures.all fun failed => failed.2.isAlreadyMounted then .allMounted
  else .someFailed failures

/-- What is printed about the failures: a warning for each, and a notice when there are some and
all their locations were mounted before. -/
def Verdict.report (failures : Failures) : Log :=
  failures.map (fun failed =>
      Console.warning ("Mount process for " ++ failed.1 ++ " failed: " ++ failed.2.text)) ++
    if failures.isEmpty || !failures.all fun failed => failed.2.isAlreadyMounted then []
    else [Console.notice "Every failed location was already mounted"]

end SessionMounts.Mounting
