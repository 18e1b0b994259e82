/-!
Texts, their ends and their lines. The blank characters that are trimmed are more than the ASCII
blanks: the information separators, the next-line control and the blank characters of the general
punctuation block are among them. A text is read as lines in three ways. A mounts file and a policy
value end their lines with a line feed only; the output of a mounting command is cut at every line
break of Unicode; a policy file read as text has its carriage returns turned into line feeds first.
-/

namespace SessionMounts.Text

/-- A character that trimming removes. -/
def isBlank (c : Char) : Bool :=
  let n := c.toNat
  (0x09 ≤ n && n ≤ 0x0D) || (0x1C ≤ n && n ≤ 0x20) || n == 0x85 || n == 0xA0 || n == 0x1680 ||
    (0x2000 ≤ n && n ≤ 0x200A) || n == 0x2028 || n == 0x2029 || n == 0x202F || n == 0x205F ||
    n == 0x3000

/-- The text without the characters of a class at either end. -/
def stripped (drop : Char → Bool) (text : List Char) : List Char :=
  ((text.dropWhile drop).reverse.dropWhile drop).reverse

def trim (text : List Char) : List Char :=
  stripped isBlank text

/-! ### Lines -/

/-- The parts of a text between the occurrences of a separator, one more than there are
separators. -/
def splitOn (separator : Char) : List Char → List (List Char)
  | [] => [[]]
  | c :: rest =>
    if c = separator then [] :: splitOn separator rest
    else match splitOn separator rest with
      | [] => [[c]]
      | first :: others => (c :: first) :: others

theorem splitOn_ne_nil (separator : Char) (text : List Char) : splitOn separator text ≠ [] := by
  fun_cases splitOn separator text <;> simp_all

/-- The parts with separators between them are the text. -/
theorem intercalate_splitOn (separator : Char) (text : List Char) :
    [separator].intercalate (splitOn separator text) = text := by
  induction text with
  | nil => rfl
  | cons c rest ih =>
    rw [splitOn]
    have hne := splitOn_ne_nil separator rest
    split
    · rename_i h
      cases hs : splitOn separator rest with
      | nil => exact absurd hs hne
      | cons first others => rw [hs] at ih; simp [List.intercalate, List.intersperse, h] at ih ⊢; exact ih
    · cases hs : splitOn separator rest with
      | nil => exact absurd hs hne
      | cons first others =>
        rw [hs] at ih
        cases others <;> simp_all [List.intercalate, List.intersperse]

/-- No part holds the separator. -/
theorem not_mem_of_mem_splitOn {separator : Char} {text part : List Char}
    (h : part ∈ splitOn separator text) : separator ∉ part := by
  induction text generalizing part with
  | nil => simp_all [splitOn]
  | cons c rest ih =>
    rw [splitOn] at h
    split at h
    · rcases List.mem_cons.mp h with rfl | h
      · simp
      · exact ih h
    · rename_i hc
      split at h
      · rw [List.mem_singleton.mp h]
        simp [Ne.symm hc]
      · rename_i first others hs
        rcases List.mem_cons.mp h with rfl | h
        · have hfirst : separator ∉ first := ih (by simp [hs])
          simp [hfirst, Ne.symm hc]
        · exact ih (by simp [hs, h])

/-- A separator between two texts parts them. -/
theorem splitOn_append (separator : Char) (front back : List Char) :
    splitOn separator (front ++ separator :: back) =
      splitOn separator front ++ splitOn separator back := by
  induction front with
  | nil => simp [splitOn]
  | cons c rest ih =>
    rw [List.cons_append, splitOn, ih, splitOn]
    split
    · rfl
    · cases hs : splitOn separator rest with
      | nil => exact absurd hs (splitOn_ne_nil separator rest)
      | cons first others => rfl

/-- A character that ends a line of command output. -/
def isLineBreak (c : Char) : Bool :=
  let n := c.toNat
  (0x0A ≤ n && n ≤ 0x0D) || (0x1C ≤ n && n ≤ 0x1E) || n == 0x85 || n == 0x2028 || n == 0x2029

/-- The lines of a text, each ended by a line break or by the end of the text. A carriage return
and the line feed after it are one break, and a break at the very end starts no further line. -/
def lines : List Char → List (List Char)
  | [] => []
  | '\r' :: '\n' :: rest => [] :: lines rest
  | c :: rest =>
    if isLineBreak c then [] :: lines rest
    else match lines rest with
      | [] => [[c]]
      | first :: others => (c :: first) :: others

/-- Turns a carriage return, with the line feed after it if there is one, into one line feed. -/
def unifyNewlines : List Char → List Char
  | [] => []
  | '\r' :: '\n' :: rest => '\n' :: unifyNewlines rest
  | '\r' :: rest => '\n' :: unifyNewlines rest
  | c :: rest => c :: unifyNewlines rest

end SessionMounts.Text
