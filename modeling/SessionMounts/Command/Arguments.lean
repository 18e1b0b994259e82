import SessionMounts.Command.Usage
import SessionMounts.Session

/-!
The arguments of a command line. Options and the mounts file may stand in any order; the switches
take effect from left to right, the last value of a switch counts, and the first plain word that
is no value is the mounts file. Help ends the reading at once. The editions of the parser read alike
what is spelled in the usual way.
-/

namespace SessionMounts.Command

open Mounting (Backend)

/-! ### Words

The words of a command line. A word that begins with a dash is an option unless it is a dash
alone, looks like a negative number, or holds a blank and is no known option. The first word that
consists of two dashes ends the options; the words after it are plain. -/

/-- What is attached to a switch in its word: a value after a name and an equals sign, or further
characters after a letter, with an equals sign right after the letter or without one. -/
inductive Attached where
  | nothing
  | value (text : List Char)
  | joined (text : List Char)
  | more (text : List Char)
  deriving DecidableEq, Repr

inductive Word where
  | plain (text : String)
  | terminator
  | unknown (text : String)
  | switch (switch : Switch) (attached : Attached)
  deriving DecidableEq, Repr

namespace Word

/-- One or more digits, with at most one line feed after them. -/
def isDigits (text : List Char) : Bool :=
  let digits := if text.getLast? = some '\n' then text.dropLast else text
  !digits.isEmpty && digits.all fun c => (Text.digitValue? c).isSome

/-- What follows a dash in a negative number: digits, or digits if any, a point and digits. -/
def isMagnitude (text : List Char) : Bool :=
  isDigits text ||
    match text.dropWhile fun c => (Text.digitValue? c).isSome with
    | '.' :: fraction => isDigits fraction
    | _ => false

/-- The parts of a text before and after its first equals sign, if it has one. -/
def splitAtEquals : List Char → List Char × Option (List Char)
  | [] => ([], none)
  | c :: rest =>
    if c = '=' then ([], some rest)
    else
      let (front, back) := splitAtEquals rest
      (c :: front, back)

/-- A word that begins with a dash and names no switch. -/
def ofUnknown (afterDash : List Char) : Word :=
  let text := String.ofList ('-' :: afterDash)
  if isMagnitude afterDash || afterDash.contains ' ' then .plain text else .unknown text

/-- A word that begins with two dashes: the name of a switch or the beginning of exactly one name,
with a value after an equals sign if there is one. A whole name is not ambiguous. -/
def ofLong (afterDashes : List Char) : Except Misuse Word :=
  let (name, value) := splitAtEquals afterDashes
  match Switch.abbreviatedBy name with
  | [] => .ok (ofUnknown ('-' :: afterDashes))
  | [named] => .ok (.switch named (value.elim .nothing .value))
  | candidates =>
    .error (.ambiguous (String.ofList ('-' :: '-' :: afterDashes)) candidates)

/-- A word that begins with one dash and a letter. -/
def ofShort (letter : Char) (rest : List Char) : Word :=
  match Switch.ofLetter? letter, rest with
  | none, _ => ofUnknown (letter :: rest)
  | some lettered, [] => .switch lettered .nothing
  | some lettered, '=' :: more => .switch lettered (.joined more)
  | some lettered, more => .switch lettered (.more more)

/-- What a word is before the options have ended. -/
def ofText (text : String) : Except Misuse Word :=
  match text.toList with
  | ['-', '-'] => .ok .terminator
  | '-' :: '-' :: rest => ofLong rest
  | '-' :: letter :: rest => .ok (ofShort letter rest)
  | _ => .ok (.plain text)

def ofTexts : List String → Except Misuse (List Word)
  | [] => .ok []
  | text :: rest =>
    match ofText text with
    | .error misuse => .error misuse
    | .ok .terminator => .ok (.terminator :: rest.map .plain)
    | .ok word =>
      match ofTexts rest with
      | .error misuse => .error misuse
      | .ok words => .ok (word :: words)

end Word

/-! ### Switches in use -/

/-- Who is to own the file that is written: the current user as long as no owner is set, the owner
that is given, or nobody, when the setting was used without naming an owner. -/
inductive Ownership where
  | currentUser
  | given (owner : Owner)
  | nobody
  deriving DecidableEq, Repr

def Ownership.owner? (user : Owner) : Ownership → Option Owner
  | .currentUser => some user
  | .given owner => some owner
  | .nobody => none

structure Settings where
  provider : Option Backend := none
  writeFrom : Option String := none
  owner : Ownership := .currentUser
  verbose : Bool := false
  deriving DecidableEq, Repr

structure Arguments extends Settings where
  mountsFile : String
  deriving DecidableEq, Repr

/-- A switch in use: a flag, or a setting with the value that it was given. -/
inductive Use where
  | flag (flag : Flag)
  | value (setting : Setting) (text : String)
  deriving DecidableEq, Repr

/-- The switches used in one word: those that are complete, the last one if its value has to be the
next word, and what is left over of the word. -/
structure Uses where
  uses : List Use := []
  waiting : Option Setting := none
  stray : Option String := none
  deriving DecidableEq, Repr

def Uses.after (flag : Flag) (others : Uses) : Uses :=
  { others with uses := .flag flag :: others.uses }

def Uses.alone : Switch → Uses
  | .flag flag => { uses := [.flag flag] }
  | .setting setting => { waiting := some setting }

def Uses.withValue (text : List Char) : Switch → Except Misuse Uses
  | .flag flag => .error (.unexpectedValue flag (String.ofList text))
  | .setting setting => .ok { uses := [.value setting (String.ofList text)] }

/-- A flag with a letter behind it that is no switch. In the late edition the rest of the word is
left over, unless it begins with a dash. -/
def Uses.withUnknown (parser : ParserEdition) (flag : Flag) (letter : Char) (rest : List Char) :
    Except Misuse Uses :=
  if parser = .late ∧ letter ≠ '-' then
    .ok { uses := [.flag flag], stray := some (String.ofList ('-' :: letter :: rest)) }
  else .error (.unexpectedValue flag (String.ofList (letter :: rest)))

/-- A switch with further characters attached to its letter: the value of a setting, or after a flag
the letters of other switches. -/
def Uses.withMore (parser : ParserEdition) : Switch → List Char → Except Misuse Uses
  | .setting setting, more => .ok { uses := [.value setting (String.ofList more)] }
  | .flag flag, [] => .error (.unexpectedValue flag "")
  | .flag flag, letter :: rest =>
    match Switch.ofLetter? letter with
    | none => withUnknown parser flag letter rest
    | some next =>
      let others : Except Misuse Uses := match rest with
        | [] => .ok (alone next)
        | c :: value =>
          if parser = .late ∧ c = '=' then withValue value next else withMore parser next rest
      others.map (after flag)

def Uses.ofSwitch (parser : ParserEdition) (switch : Switch) : Attached → Except Misuse Uses
  | .nothing => .ok (alone switch)
  | .value text => withValue text switch
  | .joined text =>
    match parser with
    | .early => withMore parser switch text
    | .late => withValue text switch
  | .more text => withMore parser switch text

/-- Why the reading ends before the last word. -/
inductive Stop where
  | help
  | misuse (misuse : Misuse)
  deriving DecidableEq, Repr

/-- The early edition takes two dashes away that are the value of a switch. -/
def withholds : ParserEdition → String → Bool
  | .early, text => text = "--"
  | .late, _ => false

/-- The settings after the value of one of them has been taken away: there is no provider, as at the
beginning, the policy file has an empty name, and the owner is nobody, and not the current user. -/
def Settings.withhold (settings : Settings) : Setting → Settings
  | .provider => { settings with provider := none }
  | .writeFrom => { settings with writeFrom := some "" }
  | .owner => { settings with owner := .nobody }

/-- The settings after one of them has been given a value. -/
def Settings.set (settings : Settings) (setting : Setting) (text : String) : Except Misuse Settings :=
  match setting with
  | .provider =>
    match Backend.ofName? text with
    | some backend => .ok { settings with provider := some backend }
    | none => .error (.unknownProvider text)
  | .writeFrom => .ok { settings with writeFrom := some text }
  | .owner =>
    match Owner.parse? text.toList with
    | some owner => .ok { settings with owner := .given owner }
    | none => .error (.malformedOwner text)

def Use.apply (parser : ParserEdition) (settings : Settings) : Use → Except Stop Settings
  | .flag .help => .error .help
  | .flag .verbose => .ok { settings with verbose := true }
  | .value setting text =>
    if withholds parser text then .ok (settings.withhold setting)
    else
      match settings.set setting text with
      | .ok settings => .ok settings
      | .error misuse => .error (.misuse misuse)

def applyAll (parser : ParserEdition) (settings : Settings) : List Use → Except Stop Settings
  | [] => .ok settings
  | use :: rest =>
    match use.apply parser settings with
    | .ok next => applyAll parser next rest
    | .error stop => .error stop

/-- What has been read so far: the settings, the mounts file and whether it was the last word, the
words that have no place, and the switches of a word whose last value is still to come. -/
structure Progress where
  settings : Settings := {}
  mountsFile : Option String := none
  justNamed : Bool := false
  strays : List String := []
  waiting : Option (Uses × Setting) := none
  deriving DecidableEq, Repr

namespace Progress

def stray (progress : Progress) (text : String) : Progress :=
  { progress with strays := progress.strays ++ [text], justNamed := false }

/-- A plain word is the mounts file, or has no place once there is one. -/
def plain (progress : Progress) (text : String) : Progress :=
  match progress.mountsFile with
  | none => { progress with mountsFile := some text, justNamed := true }
  | some _ => progress.stray text

/-- The end of the options is passed over before the mounts file and right after it; anywhere else
it is a word that has no place. -/
def terminate (progress : Progress) : Progress :=
  if progress.mountsFile.isNone || progress.justNamed then { progress with justNamed := false }
  else progress.stray "--"

def use (parser : ParserEdition) (progress : Progress) (uses : List Use) : Except Stop Progress :=
  match applyAll parser progress.settings uses with
  | .error stop => .error stop
  | .ok settings =>
    .ok { progress with settings := settings, justNamed := false, waiting := none }

/-- The switches of a word are used at once, or wait for the value of the last one; what is left over
of the word has no place. -/
def useWord (parser : ParserEdition) (progress : Progress) :
    Except Misuse Uses → Except Stop Progress
  | .error misuse => .error (.misuse misuse)
  | .ok uses =>
    match uses.waiting with
    | some setting => .ok { progress with waiting := some (uses, setting) }
    | none => (progress.use parser uses.uses).map fun next => uses.stray.elim next next.stray

def next (parser : ParserEdition) (progress : Progress) (word : Word) : Except Stop Progress :=
  match progress.waiting, word with
  | some (uses, setting), .plain text =>
    progress.use parser (uses.uses ++ [.value setting text])
  | some (_, setting), _ => .error (.misuse (.missingValue setting))
  | none, .plain text => .ok (progress.plain text)
  | none, .terminator => .ok progress.terminate
  | none, .unknown text => .ok (progress.stray text)
  | none, .switch switch attached => progress.useWord parser (Uses.ofSwitch parser switch attached)

def finish (progress : Progress) : Except Stop Arguments :=
  match progress.waiting, progress.mountsFile, progress.strays with
  | some (_, setting), _, _ => .error (.misuse (.missingValue setting))
  | none, none, _ => .error (.misuse .missingMountsFile)
  | none, some mountsFile, [] => .ok { progress.settings with mountsFile := mountsFile }
  | none, some _, strays => .error (.misuse (.unrecognized strays))

def read (parser : ParserEdition) (progress : Progress) : List Word → Except Stop Arguments
  | [] => progress.finish
  | word :: rest =>
    match progress.next parser word with
    | .error stop => .error stop
    | .ok next => next.read parser rest

end Progress

def Arguments.parse (parser : ParserEdition) (texts : List String) : Except Stop Arguments :=
  match Word.ofTexts texts with
  | .error misuse => .error (.misuse misuse)
  | .ok words => Progress.read parser {} words

end SessionMounts.Command
