import SessionMounts.Owner

/-!
The switches of the command line, what may be wrong with a command line, and what the command says of
itself. A flag stands alone, a setting takes a value; each switch has a letter and a name.
-/

namespace SessionMounts.Command

/-- A switch that stands alone. -/
inductive Flag where
  | help
  | verbose
  deriving DecidableEq, Repr

/-- A switch that takes a value. -/
inductive Setting where
  | provider
  | writeFrom
  | owner
  deriving DecidableEq, Repr

inductive Switch where
  | flag (flag : Flag)
  | setting (setting : Setting)
  deriving DecidableEq, Repr

namespace Switch

/-- All switches, in the order in which they are listed. -/
def all : List Switch :=
  [.flag .help, .setting .provider, .setting .writeFrom, .setting .owner, .flag .verbose]

/-- The letter of a switch, written after one dash. -/
def letter : Switch → Char
  | .flag .help => 'h'
  | .flag .verbose => 'v'
  | .setting .provider => 'p'
  | .setting .writeFrom => 'w'
  | .setting .owner => 'o'

/-- The name of a switch, written after two dashes. -/
def name : Switch → List Char
  | .flag .help => "help".toList
  | .flag .verbose => "verbose".toList
  | .setting .provider => "provider".toList
  | .setting .writeFrom => "write-from".toList
  | .setting .owner => "owner".toList

def ofLetter? (letter : Char) : Option Switch :=
  all.find? fun switch => switch.letter == letter

/-- The switches whose names begin in the given way. -/
def abbreviatedBy (beginning : List Char) : List Switch :=
  all.filter fun switch => beginning.isPrefixOf switch.name

def long (switch : Switch) : String :=
  String.ofList ('-' :: '-' :: switch.name)

def spellings (switch : Switch) : String :=
  String.ofList ['-', switch.letter, '/'] ++ switch.long

end Switch

/-! ### Mistakes -/

/-- A mistake in a command line. -/
inductive Misuse where
  | ambiguous (word : String) (candidates : List Switch)
  | missingValue (setting : Setting)
  | unexpectedValue (flag : Flag) (value : String)
  | unknownProvider (value : String)
  | malformedOwner (value : String)
  | missingMountsFile
  | unrecognized (words : List String)
  deriving DecidableEq, Repr

def about (switch : Switch) (text : String) : String :=
  "argument " ++ switch.spellings ++ ": " ++ text

def Misuse.message : Misuse → String
  | .ambiguous word candidates =>
    "ambiguous option: " ++ word ++ " could match " ++
      ", ".intercalate (candidates.map Switch.long)
  | .missingValue setting => about (.setting setting) "expected one argument"
  | .unexpectedValue flag value =>
    about (.flag flag) ("ignored explicit argument " ++ Text.Quoted.quote value)
  | .unknownProvider value =>
    about (.setting .provider)
      ("invalid choice: " ++ Text.Quoted.quote value ++ " (choose from 'gio', 'cli')")
  | .malformedOwner value => about (.setting .owner) (Owner.malformed value)
  | .missingMountsFile => "the following arguments are required: mounts_file"
  | .unrecognized words => "unrecognized arguments: " ++ " ".intercalate words

/-! ### Usage and help -/

def programName : String := "usermount"

def usage : String :=
  "usage: usermount [-h] [-p \x7bgio,cli\x7d] [-w POLICY_FILE] [-o OWNER] [-v]\n" ++
  "                 mounts_file\n"

def help : String :=
  usage ++
  "\n" ++
  "Mount the network locations listed in a mounts file\n" ++
  "\n" ++
  "positional arguments:\n" ++
  "  mounts_file           File listing one location per line, optionally\n" ++
  "                        prefixed with [anonymous]\n" ++
  "\n" ++
  "options:\n" ++
  "  -h, --help            show this help message and exit\n" ++
  "  -p \x7bgio,cli\x7d, --provider \x7bgio,cli\x7d\n" ++
  "                        How to mount: in-process GIO or the gio command\n" ++
  "                        (default: $USERMOUNT_PROVIDER or gio)\n" ++
  "  -w POLICY_FILE, --write-from POLICY_FILE\n" ++
  "                        Write mounts_file from the policy entry value in\n" ++
  "                        POLICY_FILE instead of mounting\n" ++
  "  -o OWNER, --owner OWNER\n" ++
  "                        UID:GID owning the written mounts file (default:\n" ++
  "                        current user)\n" ++
  "  -v, --verbose         Print debug messages\n"

/-- What is said of a mistake: the usage and the mistake. -/
def Misuse.report (misuse : Misuse) : String :=
  usage ++ programName ++ ": error: " ++ misuse.message ++ "\n"

end SessionMounts.Command
