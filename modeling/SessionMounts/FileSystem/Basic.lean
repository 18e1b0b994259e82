import SessionMounts.Owner
import SessionMounts.Utf8.Codec

/-!
A file system: files with their contents and owners, directories, the working directory and the
current user; the errors that it reports, and the paths by which it is asked. A location is a list of
names from the root. Texts are resolved name by name from the left; the first name that cannot be
passed decides what is wrong. Links and permission bits are not part of it: a file says itself what
reading it meets, and a step of writing what else the system refuses it for.
-/

namespace SessionMounts

/-! ### Errors

An error of the operating system has a number with its standard text and the files concerned, or is a
text alone. -/

inductive SystemError where
  | plain (text : String)
  | coded (number : Int) (text : String) (file target : Option String)
  deriving DecidableEq, Repr

namespace SystemError

def number? : SystemError → Option Int
  | .plain _ => none
  | .coded number .. => some number

def message : SystemError → String
  | .plain text => text
  | .coded number text file target =>
    let base := "[Errno " ++ toString number ++ "] " ++ text
    match file, target with
    | none, _ => base
    | some file, none => base ++ ": " ++ Text.Quoted.quote file
    | some file, some target =>
      base ++ ": " ++ Text.Quoted.quote file ++ " -> " ++ Text.Quoted.quote target

end SystemError

/-- The ways in which the file system refuses an access. -/
inductive Denial where
  | missing
  | notDirectory
  | isDirectory
  | nameTooLong
  deriving DecidableEq, Repr

/-- The error number and the standard text of a refusal. -/
def Denial.coded (denial : Denial) (file target : Option String) : SystemError :=
  match denial with
  | .missing => .coded 2 "No such file or directory" file target
  | .notDirectory => .coded 20 "Not a directory" file target
  | .isDirectory => .coded 21 "Is a directory" file target
  | .nameTooLong => .coded 36 "File name too long" file target

/-! ### Paths in normal form

A path is a root and the names between its slashes; repeated slashes, single dots and a slash at the end
do not count, and parent dots are kept. Exactly two slashes at the beginning are a root of their own. -/

inductive PathRoot where
  | here
  | single
  | double
  deriving DecidableEq, Repr

/-- A path in normal form. -/
structure Path where
  root : PathRoot
  names : List (List Char)
  deriving DecidableEq, Repr

namespace Path

/-- The names between the slashes of a text, without empty ones and single dots. -/
def namesOf (text : List Char) : List (List Char) :=
  (Text.splitOn '/' text).filter fun name => !name.isEmpty && name != ['.']

def rootOf : List Char → PathRoot
  | '/' :: '/' :: '/' :: _ => .single
  | '/' :: '/' :: _ => .double
  | '/' :: _ => .single
  | _ => .here

def parse (text : String) : Path :=
  ⟨rootOf text.toList, namesOf text.toList⟩

def rootText : PathRoot → List Char
  | .here => []
  | .single => ['/']
  | .double => ['/', '/']

def chars (path : Path) : List Char :=
  if path.root = .here ∧ path.names = [] then ['.']
  else rootText path.root ++ ['/'].intercalate path.names

def text (path : Path) : String :=
  String.ofList path.chars

/-- The last name of a path; a path without names has none. -/
def name (path : Path) : List Char :=
  path.names.getLast?.getD []

def parent (path : Path) : Path :=
  { path with names := path.names.dropLast }

/-- The names after following parent dots one by one, from the names of a directory. -/
def follow (directory : List (List Char)) : List (List Char) → List (List Char)
  | [] => directory
  | name :: rest =>
    if name = ['.', '.'] then follow directory.dropLast rest
    else follow (directory ++ [name]) rest

/-- The absolute path without parent dots that a path seen from a directory writes. -/
def absolute (directory : List (List Char)) (path : Path) : Path :=
  match path.root with
  | .here => ⟨.single, follow directory path.names⟩
  | root => ⟨root, follow [] path.names⟩

def child (directory : Path) (name : List Char) : Path :=
  { directory with names := directory.names ++ [name] }

end Path

/-! ### Files and directories -/

/-- A list of names from the root of the file system. -/
abbrev Location := List (List Char)

/-- A file: its content, its owner, and the error that reading it meets, if it meets one. -/
structure File where
  content : List UInt8
  owner : Owner
  fault : Option SystemError := none
  deriving DecidableEq, Repr

inductive Node where
  | file (file : File)
  | directory
  deriving DecidableEq, Repr

/-- The working directory and those above it exist; every other node is listed. -/
structure FileSystem where
  workingDirectory : Location
  user : Owner
  nodes : List (Location × Node) := []
  deriving DecidableEq, Repr

namespace FileSystem

/-- The node listed first under a location. -/
def lookup (location : Location) : List (Location × Node) → Option Node
  | [] => none
  | (other, node) :: rest => if other = location then some node else lookup location rest

def node? (files : FileSystem) (location : Location) : Option Node :=
  if location.isPrefixOf files.workingDirectory then some .directory
  else lookup location files.nodes

/-- The nodes listed under other locations. -/
def without (location : Location) (nodes : List (Location × Node)) : List (Location × Node) :=
  nodes.filter fun listed => listed.1 ≠ location

/-- The file system after a node has been put at a location, in place of what stood there. -/
def put (files : FileSystem) (location : Location) (node : Node) : FileSystem :=
  { files with nodes := without location files.nodes ++ [(location, node)] }

/-- The file system after the node at a location has been taken away. -/
def erase (files : FileSystem) (location : Location) : FileSystem :=
  { files with nodes := without location files.nodes }

/-- The greatest number of bytes of a name. -/
def maxName : Nat := 255

/-- The greatest number of bytes of a path. -/
def maxPath : Nat := 4095

def tooLong (name : List Char) : Bool :=
  maxName < Utf8.width name

/-- The names to pass when a text is resolved; an empty name between or after slashes stands for
the directory itself. -/
def steps (text : List Char) : List (List Char) :=
  (Text.splitOn '/' text).map fun name => if name.isEmpty then ['.'] else name

/-- The location from which a text is resolved. -/
def origin (files : FileSystem) : List Char → Location
  | '/' :: _ => []
  | _ => files.workingDirectory

/-- Passes names one after another from a location. -/
def walk (files : FileSystem) (location : Location) : List (List Char) → Except Denial Location
  | [] => .ok location
  | name :: rest =>
    match files.node? location with
    | some .directory =>
      if tooLong name then .error .nameTooLong
      else if name = ['.'] then walk files location rest
      else if name = ['.', '.'] then walk files location.dropLast rest
      else
        match files.node? (location ++ [name]) with
        | some _ => walk files (location ++ [name]) rest
        | none => .error .missing
    | _ => .error .notDirectory

/-- Checks that come before any name is passed. -/
def check (text : List Char) : Except Denial Unit :=
  if text.isEmpty then .error .missing
  else if maxPath < Utf8.width text then .error .nameTooLong
  else .ok ()

def locate (files : FileSystem) (text : List Char) : Except Denial Location :=
  match check text with
  | .error denial => .error denial
  | .ok () => walk files (files.origin text) (steps text)

/-- The location that a text names in a directory that exists, whether or not something stands
there. -/
def place (files : FileSystem) (text : List Char) : Except Denial Location :=
  match check text with
  | .error denial => .error denial
  | .ok () =>
    match walk files (files.origin text) (steps text).dropLast with
    | .error denial => .error denial
    | .ok directory =>
      let name := (steps text).getLast?.getD []
      match files.node? directory with
      | some .directory => if tooLong name then .error .nameTooLong else .ok (directory ++ [name])
      | _ => .error .notDirectory

/-- Whether a text names a directory. What is missing, or cannot be reached because of a file, or
has a NUL character in its name, is no directory. -/
def isDirectory (files : FileSystem) (text : List Char) : Except Denial Bool :=
  if text.contains '\x00' then .ok false
  else
    match files.locate text with
    | .ok location => .ok (files.node? location == some .directory)
    | .error .nameTooLong => .error .nameTooLong
    | .error _ => .ok false

/-- What reading a file meets: no path has a NUL character, or the system reports an error. -/
inductive ReadError where
  | nulInPath
  | system (error : SystemError)
  deriving DecidableEq, Repr

def nulInPathMessage : String := "embedded null byte"

def ReadError.message : ReadError → String
  | .nulInPath => nulInPathMessage
  | .system error => error.message

/-- The content of the file that a text names. -/
def read (files : FileSystem) (text : String) : Except ReadError (List UInt8) :=
  if text.toList.contains '\x00' then .error .nulInPath
  else
    match files.locate text.toList with
    | .error denial => .error (.system (denial.coded (some text) none))
    | .ok location =>
      match files.node? location with
      | some (.file file) =>
        match file.fault with
        | some error => .error (.system error)
        | none => .ok file.content
      | some .directory => .error (.system (Denial.isDirectory.coded (some text) none))
      | none => .error (.system (Denial.missing.coded (some text) none))

/-! ### Files read as texts -/

/-- Why a file gives no text: it cannot be read, or its bytes are no text. -/
inductive TextError where
  | unreadable (error : ReadError)
  | undecodable (fault : Utf8.Fault)
  deriving DecidableEq, Repr

def TextError.message : TextError → String
  | .unreadable error => error.message
  | .undecodable fault => fault.message

/-- The text in the file that a text names, with its line ends untouched. -/
def readText (files : FileSystem) (path : String) : Except TextError (List Char) :=
  match files.read path with
  | .error error => .error (.unreadable error)
  | .ok bytes =>
    match Utf8.decode bytes with
    | .error fault => .error (.undecodable fault)
    | .ok content => .ok content

end FileSystem

end SessionMounts
