import SessionMounts.Session

/-!
Mounting what a mounts file lists. Its bytes are decoded as they stand, with the line ends untouched; a
file that cannot be read or decoded is reported and said to be unreadable. A file without entries
asks nothing of anyone: a provider is built only when there is something to mount, and one that was
built is closed at the end of the run, however the run ends.
-/

namespace SessionMounts.MountsFile

open Console (Log Output)
open Mounting (Act Backends Docket Ending Failures Mounted Provider Refusal Unavailable)

/-- Why a mounts file gives no entries: its path has a NUL character, or it is unreadable for the
reason that is given. -/
inductive ReadError where
  | nulInPath
  | unreadable (path reason : String)
  deriving DecidableEq, Repr

def ReadError.message : ReadError → String
  | .nulInPath => FileSystem.nulInPathMessage
  | .unreadable path reason => "could not read " ++ path ++ ": " ++ reason

def complaint (reason : String) : Log :=
  [Console.error ("Error when parsing entries: " ++ reason)]

/-- The entries of a mounts file, and what is printed. -/
def read (verbose : Bool) (files : FileSystem) (path : String) :
    Except ReadError (List Entry) × Log :=
  let announced := Console.debug verbose ("Parsing file " ++ path ++ " content")
  match files.readText path with
  | .ok content => (.ok (Entry.parse content), announced)
  | .error (.unreadable .nulInPath) => (.error .nulInPath, announced)
  | .error error => (.error (.unreadable path error.message), announced ++ complaint error.message)

/-! ### Mounting -/

/-- Why the locations of a mounts file are not mounted. -/
inductive Problem where
  | file (error : ReadError)
  | unavailable (reason : Unavailable)
  | failed (failures : Failures)
  | refused (refusal : Refusal)
  | waiting
  deriving DecidableEq, Repr

/-- The state after a mounts file has been dealt with. -/
structure Handled (σ : Type) where
  result : Except Problem Unit
  state : σ
  docket : Docket := {}
  acts : List Act := []
  output : Output := {}

variable {σ : Type}

/-- What a run means for the mounts file, and what is printed about it. -/
def conclude (path : String) : Ending → Except Problem Unit × Log
  | .mounted => (.ok (), [Console.ok ("All entries from " ++ path ++ " are mounted")])
  | .failed failures => (.error (.failed failures), [])
  | .refused refusal => (.error (.refused refusal), [])
  | .waiting => (.error .waiting, [])

/-- Reads a mounts file and, when it lists anything, mounts the entries in the given way. -/
def handle (verbose : Bool) (files : FileSystem) (path : String) (state : σ)
    (mount : List Entry → Except Unavailable (Mounted σ)) : Handled σ :=
  match read verbose files path with
  | (.error error, log) => { result := .error (.file error), state := state, output := .front log }
  | (.ok [], log) => { result := .ok (), state := state, output := .front log }
  | (.ok (entry :: rest), log) =>
    let announced := log ++ [Console.info ("Mounting " ++ toString (entry :: rest).length ++
      " entries from " ++ path)]
    match mount (entry :: rest) with
    | .error reason =>
      { result := .error (.unavailable reason), state := state, output := .front announced }
    | .ok mounted =>
      let (result, closing) := conclude path mounted.ending
      { result := result
        state := mounted.state
        docket := mounted.docket
        acts := mounted.acts
        output := .front announced ++ mounted.output ++ .front closing }

/-- Mounts what a mounts file lists with a provider that belongs to the caller. -/
def mountUsing (provider : Provider σ) (environment : Environment) (verbose : Bool)
    (files : FileSystem) (path : String) (state : σ) : Handled σ :=
  handle verbose files path state fun entries =>
    .ok (provider.mount environment.ticket verbose state entries)

/-- Mounts entries with a new instance of a provider and closes it, unless the run never ends. -/
def mountOnce (provider : Provider σ) (ticket verbose : Bool) (state : σ) (entries : List Entry) :
    Mounted σ :=
  let mounted := provider.mount ticket verbose (provider.build state) entries
  match mounted.ending with
  | .waiting => { mounted with acts := .built :: mounted.acts }
  | _ =>
    { mounted with
      state := provider.close mounted.state
      acts := .built :: mounted.acts ++ [.closed] }

/-- Mounts what a mounts file lists with a provider that is chosen and built for it. -/
def mountSelecting (backends : Backends σ) (given : Option String) (environment : Environment)
    (verbose : Bool) (files : FileSystem) (path : String) (state : σ) : Handled σ :=
  handle verbose files path state fun entries =>
    match backends.select given environment with
    | .error reason => .error reason
    | .ok (_, provider) => .ok (mountOnce provider environment.ticket verbose state entries)

end SessionMounts.MountsFile
