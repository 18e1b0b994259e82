import SessionMounts.Command.Arguments
import SessionMounts.MountsFile.Mount
import SessionMounts.MountsFile.Write

/-!
The command. It mounts what a mounts file lists, or writes a mounts file from a policy file, and
tells by its exit code how that went.
-/

namespace SessionMounts.Command

open Console (Log Output)
open Mounting (Act Backend Backends Refusal)
open MountsFile (Handled Interference OutOfRange Problem Written)

/-- How the work of the command went. -/
inductive ExitCode where
  | ok
  | configuration
  | unreadable
  | failed
  | notWritten
  deriving DecidableEq, Repr

def ExitCode.number : ExitCode → Int
  | .ok => 0
  | .configuration => 1
  | .unreadable => 3
  | .failed => 4
  | .notWritten => 5

def misuseCode : Int := 2

/-- How the command ends: it does its work and returns a code, it exits on the command line alone,
an owner that the system cannot represent stops it, there is nobody to own the file that it is to
write because the owner's value was taken away, a provider refuses a request, or it waits for a
provider that never reports. -/
inductive Outcome where
  | returned (code : ExitCode)
  | exited (code : Int)
  | outOfRange (range : OutOfRange)
  | ownerless
  | refused (refusal : Refusal)
  | waiting
  deriving DecidableEq, Repr

/-- What the command finds around it. -/
structure World (σ : Type) where
  files : FileSystem
  environment : Environment
  state : σ

/-- What came of the command: how it ended, the files and the providers' state afterwards, what it
printed as help, as messages and as errors, the owners asked of the system, and what it did that
others can see. -/
structure Finished (σ : Type) where
  outcome : Outcome
  files : FileSystem
  state : σ
  helpText : String := ""
  output : Output := {}
  errorText : String := ""
  owners : List Owner := []
  acts : List Act := []

variable {σ : Type}

/-- The exit code for a problem with the mounts file, if the command deals with it, and what is
printed. -/
def outcomeOf : Problem → Outcome × Log
  | .file .nulInPath =>
    (.returned .configuration,
      [Console.error ("Configuration error: " ++ FileSystem.nulInPathMessage)])
  | .file error => (.returned .unreadable, [Console.error error.message])
  | .unavailable reason =>
    (.returned .configuration, [Console.error ("Configuration error: " ++ reason.message)])
  | .failed failures => (.returned .failed, [Console.error (Mounting.Failures.text failures)])
  | .refused refusal => (.refused refusal, [])
  | .waiting => (.waiting, [])

def mount (backends : Backends σ) (world : World σ) (verbose : Bool) (provider : Option Backend)
    (mountsFile : String) : Finished σ :=
  let handled := MountsFile.mountSelecting backends (provider.map Backend.name) world.environment
    verbose world.files mountsFile world.state
  let (outcome, log) : Outcome × Log := match handled.result with
    | .ok () => (.returned .ok, [])
    | .error problem => outcomeOf problem
  { outcome := outcome
    files := world.files
    state := handled.state
    output := handled.output ++ .front log
    acts := handled.acts }

def notWritten (mountsFile reason : String) : Log :=
  [Console.error ("Failed to write " ++ mountsFile ++ ": " ++ reason)]

def writeValues (world : World σ) (verbose : Bool) (interference : Interference) (suffix : String)
    (values : List String) (mountsFile : String) (owner : Owner) : Finished σ :=
  let written := MountsFile.write verbose world.files interference suffix mountsFile values owner
  let (outcome, log) : Outcome × Log := match written.result with
    | .ok () =>
      (.returned .ok, [Console.ok ("Wrote " ++ toString values.length ++ " entries to " ++
        mountsFile)])
    | .error (.outOfRange range) => (.outOfRange range, [])
    | .error error => (.returned .notWritten, notWritten mountsFile error.message)
  { outcome := outcome
    files := written.files
    state := world.state
    output := .front (written.log ++ log)
    owners := written.owners }

/-- Writes the mounts file from a policy file. That nobody is to own the file comes to light once
the policy file has been read, and before anything is written. -/
def writeFrom (world : World σ) (verbose : Bool) (interference : Interference) (suffix : String)
    (policyFile mountsFile : String) (ownership : Ownership) : Finished σ :=
  match Policy.read world.files policyFile with
  | .error error =>
    { outcome := .returned .notWritten
      files := world.files
      state := world.state
      output := .front (notWritten mountsFile error.message) }
  | .ok values =>
    match ownership.owner? world.files.user with
    | none => { outcome := .ownerless, files := world.files, state := world.state }
    | some owner => writeValues world verbose interference suffix values mountsFile owner

/-- The policy file to write from; an empty name counts as none. -/
def Arguments.policyFile? (arguments : Arguments) : Option String :=
  arguments.writeFrom.filter fun name => !name.isEmpty

def runWith (backends : Backends σ) (world : World σ) (verbose : Bool)
    (interference : Interference) (suffix : String) (arguments : Arguments) : Finished σ :=
  let verbose := verbose || arguments.verbose
  match arguments.policyFile? with
  | some policyFile =>
    writeFrom world verbose interference suffix policyFile arguments.mountsFile arguments.owner
  | none => mount backends world verbose arguments.provider arguments.mountsFile

def run (backends : Backends σ) (world : World σ) (verbose : Bool) (interference : Interference)
    (suffix : String) (words : List String) : Finished σ :=
  match Arguments.parse world.environment.parser words with
  | .error .help =>
    { outcome := .exited 0, files := world.files, state := world.state, helpText := help }
  | .error (.misuse misuse) =>
    { outcome := .exited misuseCode
      files := world.files
      state := world.state
      errorText := misuse.report }
  | .ok arguments => runWith backends world verbose interference suffix arguments

/-- Whether the switches of a command line make a run verbose. -/
def asksVerbose (words : List String) (parser : ParserEdition := .early) : Bool :=
  match Arguments.parse parser words with
  | .ok arguments => arguments.verbose
  | .error _ => false

end SessionMounts.Command
