import SessionMounts.Console
import SessionMounts.FileSystem.Basic

/-!
Writing a mounts file from a policy. A policy file holds the value of one policy entry; the locations
in it are its lines, trimmed, without the blank ones and without repetitions. They are written all or
nothing.
-/

namespace SessionMounts

namespace Policy

/-- The lines of a policy value, trimmed. -/
def trimmedLines (value : List Char) : List (List Char) :=
  (Text.splitOn '\n' value).map Text.trim

/-- The distinct locations of a policy value, in the order of their first lines. -/
def values (value : List Char) : List String :=
  (((trimmedLines value).filter fun line => !line.isEmpty).eraseDups).map String.ofList

/-- The content of the mounts file that lists the given values, one per line. -/
def fileContent (values : List String) : List Char :=
  values.flatMap fun value => value.toList ++ ['\n']

/-- The values in the policy file that a text names, whose path is taken in normal form. -/
def read (files : FileSystem) (policyFile : String) :
    Except FileSystem.TextError (List String) :=
  match files.readText (Path.parse policyFile).text with
  | .error error => .error error
  | .ok content => .ok (values (Text.unifyNewlines content))

end Policy

/-! ### Writing

The content goes to a temporary file beside the target, which is given its owner and then renamed over
the target; when a step fails the temporary file is removed again, and the file system is as it was. -/

namespace MountsFile

open Console (Log)

/-- The steps of writing that the system may refuse for reasons of its own. -/
inductive Step where
  | inspect
  | create
  | fill
  | chown
  | rename
  deriving DecidableEq, Repr

/-- The errors by which the system refuses steps. -/
abbrev Interference := Step → Option SystemError

/-- The number of a user or group that is too great for the system. -/
structure OutOfRange where
  part : String
  number : Int
  deriving DecidableEq, Repr

/-- Numbers from 2^63 on are reported differently. -/
def OutOfRange.message (range : OutOfRange) : String :=
  range.part ++
    if range.number < 0x8000000000000000 then " is less than minimum" else " is greater than maximum"

inductive WriteError where
  | invalidOwner (owner : Owner)
  | directory (path : String)
  | nulInPath
  | outOfRange (range : OutOfRange)
  | system (error : SystemError)
  deriving DecidableEq, Repr

def WriteError.message : WriteError → String
  | .invalidOwner owner => "invalid owner " ++ owner.text
  | .directory path => path ++ " is a directory"
  | .nulInPath => FileSystem.nulInPathMessage
  | .outOfRange range => range.message
  | .system error => error.message

def bytesOf (values : List String) : List UInt8 :=
  Utf8.encode (Policy.fileContent values)

/-- The number that is too great for the system, if an owner has one; the user comes first. The
system keeps 32 bits. -/
def outOfRange? (owner : Owner) : Option OutOfRange :=
  if 0x100000000 ≤ owner.user then some ⟨"uid", owner.user⟩
  else if 0x100000000 ≤ owner.group then some ⟨"gid", owner.group⟩
  else none

/-- The path of the temporary file: a hidden name in the directory of the target, that directory
made absolute and without parent dots. -/
def temporaryPath (files : FileSystem) (path : Path) (suffix : String) : Path :=
  (path.parent.absolute files.workingDirectory).child
    (['.'] ++ path.name ++ ['.'] ++ suffix.toList)

/-- What came of writing: the result, the file system at the end and after each step before it,
the owners asked of the system, and what was printed. -/
structure Written where
  result : Except WriteError Unit
  files : FileSystem
  stages : List FileSystem := []
  owners : List Owner := []
  log : Log := []

/-- The end of a failed step after which the temporary file is removed. -/
def cleanedUp (files : FileSystem) (temporary : Location) (stages : List FileSystem)
    (owners : List Owner) (error : WriteError) : Written where
  result := .error error
  files := files.erase temporary
  stages := stages
  owners := owners

/-- Gives the temporary file its owner and renames it over the target. The file belongs to the current
user until then, and to whom it goes is for the system to say. The target's path may hold a
NUL character although the temporary file's does not, when a parent dot follows the name with it;
such a path is refused before the system is asked to rename. -/
def install (files : FileSystem) (interference : Interference) (path temporaryPath : Path)
    (temporary : Location) (content : List UInt8) (owner : Owner) (stages : List FileSystem) :
    Written :=
  match outOfRange? owner with
  | some range => cleanedUp files temporary stages [] (.outOfRange range)
  | none =>
    match interference .chown with
    | some error => cleanedUp files temporary stages [owner] (.system error)
    | none =>
      let file : File := { content := content, owner := owner.replacing files.user }
      let owned := files.put temporary (.file file)
      let stages := stages ++ [owned]
      let refused := fun (denial : Denial) =>
        WriteError.system (denial.coded (some temporaryPath.text) (some path.text))
      if path.chars.contains '\x00' then cleanedUp owned temporary stages [owner] .nulInPath
      else
        match interference .rename, owned.place path.chars with
        | some error, _ => cleanedUp owned temporary stages [owner] (.system error)
        | none, .error denial => cleanedUp owned temporary stages [owner] (refused denial)
        | none, .ok target =>
          { result := .ok ()
            files := (owned.erase temporary).put target (.file file)
            stages := stages
            owners := [owner] }

/-- Creates and fills the temporary file and installs it. -/
def replace (files : FileSystem) (interference : Interference) (suffix : String) (path : Path)
    (content : List UInt8) (owner : Owner) : Written :=
  let temporaryPath := temporaryPath files path suffix
  if temporaryPath.chars.contains '\x00' then { result := .error .nulInPath, files := files }
  else
    match interference .create, files.place temporaryPath.chars with
    | some error, _ => { result := .error (.system error), files := files }
    | none, .error denial =>
      { result := .error (.system (denial.coded (some temporaryPath.text) none)), files := files }
    | none, .ok temporary =>
      let created := files.put temporary (.file { content := [], owner := files.user })
      match interference .fill with
      | some error => cleanedUp created temporary [created] [] (.system error)
      | none =>
        let filled := created.put temporary (.file { content := content, owner := files.user })
        install filled interference path temporaryPath temporary content owner [created, filled]

/-- Writes the values, one per line, to the file that a text names, and asks to give it an owner. The
suffix makes the name of the temporary file a fresh one. The system is not asked about a path with a
NUL character, which is no directory. -/
def write (verbose : Bool) (files : FileSystem) (interference : Interference) (suffix : String)
    (target : String) (values : List String) (owner : Owner) : Written :=
  let path := Path.parse target
  if !owner.valid then { result := .error (.invalidOwner owner), files := files }
  else
    let refusal := if path.chars.contains '\x00' then none else interference .inspect
    match refusal, files.isDirectory path.chars with
    | some error, _ => { result := .error (.system error), files := files }
    | none, .error denial =>
      { result := .error (.system (denial.coded (some path.text) none)), files := files }
    | none, .ok true => { result := .error (.directory path.text), files := files }
    | none, .ok false =>
      let written := replace files interference suffix path (bytesOf values) owner
      { written with
        log := Console.debug verbose
            ("Writing mounts file " ++ path.text ++ " for " ++ owner.text) ++ written.log }

end MountsFile

end SessionMounts
