import SessionMounts.Text.Lines

/-!
The entries of a mounts file. A line names one location, with a tag in front of it when the
location is mounted anonymously. Only a line feed ends a line; a carriage return is dropped when
it comes right before one or at the end of the text. Blank lines list nothing.
-/

namespace SessionMounts

/-- A location listed in a mounts file, and whether it is mounted anonymously. -/
structure Entry where
  location : String
  anonymous : Bool := false
  deriving DecidableEq, Repr

namespace Entry

/-- The tag in front of an anonymous location. -/
def tag : List Char := "[anonymous]".toList

/-- A line without the carriage return at its end, if there is one. -/
def dropReturn : List Char → List Char
  | [] => []
  | ['\r'] => []
  | c :: rest => c :: dropReturn rest

/-- The entry that a line lists: a tag makes it anonymous and is not part of the location. -/
def ofLine (line : List Char) : Entry :=
  if tag.isPrefixOf line then ⟨String.ofList (line.drop tag.length), true⟩
  else ⟨String.ofList line, false⟩

/-- The line, without its end, that lists an entry. -/
def toLine (entry : Entry) : List Char :=
  if entry.anonymous then tag ++ entry.location.toList else entry.location.toList

/-- Reading the line of an entry gives the entry, unless it is not anonymous and its location
begins with the tag. -/
theorem ofLine_toLine {entry : Entry}
    (h : entry.anonymous = true ∨ tag.isPrefixOf entry.location.toList = false) :
    ofLine entry.toLine = entry := by
  obtain ⟨location, anonymous⟩ := entry
  cases anonymous with
  | true => simp [ofLine, toLine]
  | false =>
    have ht : tag.isPrefixOf location.toList = false := by simpa using h
    simp [ofLine, toLine, ht]

/-- A line is the line of the entry that it lists. -/
theorem toLine_ofLine (line : List Char) : (ofLine line).toLine = line := by
  unfold ofLine
  split
  · rename_i h
    obtain ⟨rest, rfl⟩ := List.isPrefixOf_iff_prefix.mp h
    simp [toLine]
  · simp [toLine]

/-- The lines of a mounts file that are not blank. -/
def listedLines (content : List Char) : List (List Char) :=
  ((Text.splitOn '\n' content).map dropReturn).filter fun line => !line.isEmpty

/-- The entries of a mounts file, in the order in which they are listed. -/
def parse (content : List Char) : List Entry :=
  (listedLines content).map ofLine

end Entry

end SessionMounts
