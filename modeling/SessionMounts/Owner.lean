import SessionMounts.Text.Lines
import SessionMounts.Text.Quoted

/-!
The owner of a written mounts file: a user and a group, written as two integer literals with a
colon between them. A literal may have blanks around it, at most one sign, and decimal digits of any
script with single underscores between them; it has at most 4300 digits, leading zeros included.
The digits of a script are ten consecutive characters, so a table of the zeros gives the value of every
digit.
-/

namespace SessionMounts

namespace Text

/-- The zeros of the decimal digits of general category Nd, in ascending order. -/
def digitZeros : List Nat :=
  [0x30, 0x660, 0x6F0, 0x7C0, 0x966, 0x9E6, 0xA66, 0xAE6, 0xB66, 0xBE6, 0xC66, 0xCE6, 0xD66, 0xDE6,
   0xE50, 0xED0, 0xF20, 0x1040, 0x1090, 0x17E0, 0x1810, 0x1946, 0x19D0, 0x1A80, 0x1A90, 0x1B50,
   0x1BB0, 0x1C40, 0x1C50, 0xA620, 0xA8D0, 0xA900, 0xA9D0, 0xA9F0, 0xAA50, 0xABF0, 0xFF10, 0x104A0,
   0x10D30, 0x11066, 0x110F0, 0x11136, 0x111D0, 0x112F0, 0x11450, 0x114D0, 0x11650, 0x116C0,
   0x11730, 0x118E0, 0x11950, 0x11C50, 0x11D50, 0x11DA0, 0x16A60, 0x16AC0, 0x16B50, 0x1D7CE,
   0x1D7D8, 0x1D7E2, 0x1D7EC, 0x1D7F6, 0x1E140, 0x1E2F0, 0x1E950, 0x1FBF0]

/-- The value of a decimal digit of any script, and nothing for any other character. -/
def digitValue? (c : Char) : Option Nat :=
  (digitZeros.find? fun first => first ≤ c.toNat && c.toNat < first + 10).map (c.toNat - ·)

end Text

namespace Text.Integer

/-- A blank that may stand around a literal. Of the ASCII controls only the tab, line feed,
vertical tab, form feed and carriage return count. -/
def isMargin (c : Char) : Bool :=
  isBlank c && !(0x1C ≤ c.toNat && c.toNat ≤ 0x1F)

/-- The greatest number of digits that a literal may have. -/
def maxDigits : Nat := 4300

/-- The digit values of one or more digits with single underscores between them. -/
def digits? : List Char → Option (List Nat)
  | [] => none
  | [c] => (digitValue? c).map ([·])
  | c :: '_' :: rest =>
    match digitValue? c, digits? rest with
    | some d, some ds => some (d :: ds)
    | _, _ => none
  | c :: rest =>
    match digitValue? c, digits? rest with
    | some d, some ds => some (d :: ds)
    | _, _ => none

/-- The number that a sequence of decimal digits writes, most significant digit first. -/
def valueOf (digits : List Nat) : Nat :=
  digits.foldl (fun value d => 10 * value + d) 0

/-- The number written by the digits of an unsigned literal. -/
def magnitude? (text : List Char) : Option Nat :=
  match digits? text with
  | some ds => if ds.length ≤ maxDigits then some (valueOf ds) else none
  | none => none

/-- The number that an integer literal writes, and nothing for any other text. -/
def parse? (text : List Char) : Option Int :=
  match stripped isMargin text with
  | '-' :: rest => (magnitude? rest).map fun n => -(n : Int)
  | '+' :: rest => (magnitude? rest).map fun n => (n : Int)
  | rest => (magnitude? rest).map fun n => (n : Int)

end Text.Integer

/-- A user and a group, by number. -/
structure Owner where
  user : Int
  group : Int
  deriving DecidableEq, Repr

namespace Owner

def text (owner : Owner) : String :=
  toString owner.user ++ ":" ++ toString owner.group

/-- No user and no group has a negative number. -/
def valid (owner : Owner) : Bool :=
  0 ≤ owner.user && 0 ≤ owner.group

/-- The greatest number of 32 bits, by which the system is asked to leave a user or a group as it is. -/
def unchanged : Int := 0xFFFFFFFF

/-- Who owns a file of `current` once the system has been asked to give it to `owner`. -/
def replacing (owner current : Owner) : Owner where
  user := if owner.user = unchanged then current.user else owner.user
  group := if owner.group = unchanged then current.group else owner.group

/-- The parts of a text before and after its first colon. -/
def halves? : List Char → Option (List Char × List Char)
  | [] => none
  | ':' :: rest => some ([], rest)
  | c :: rest => (halves? rest).map fun (front, back) => (c :: front, back)

/-- Reads an owner; the first colon separates the user from the group. -/
def parse? (text : List Char) : Option Owner :=
  match halves? text with
  | none => none
  | some (front, back) =>
    match Text.Integer.parse? front, Text.Integer.parse? back with
    | some user, some group => some ⟨user, group⟩
    | _, _ => none

def malformed (text : String) : String :=
  "expected UID:GID, got " ++ Text.Quoted.quote text

end Owner

end SessionMounts
