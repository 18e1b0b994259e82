import SessionMounts.Entry
import SessionMounts.Proofs.Text.Lines

/-!
The format of a mounts file. A text lists entries (`Lists`) if it is made of their lines, each with a line
end of its own, and of blank lines wherever lines may begin. Reading such a text gives these entries
(`parse_of_lists`). The entries of any text can be written again, since their lines are the ones that
they were read from (`writable_of_mem_parse`), and a line feed parts a text into two that are read
independently (`parse_append`).
-/

namespace SessionMounts.Entry

variable {entry : Entry} {entries : List Entry} {line text content : List Char}

/-- The two ways in which a line ends. -/
inductive LineEnd where
  | feed
  | returnAndFeed

def LineEnd.chars : LineEnd → List Char
  | .feed => ['\n']
  | .returnAndFeed => ['\r', '\n']

/-- The line of an entry can stand in a mounts file: it is neither blank nor more than one line, and a
location that is not anonymous does not look like a tagged one. -/
structure Writable (entry : Entry) : Prop where
  nonblank : entry.toLine ≠ []
  single : '\n' ∉ entry.toLine
  untagged : entry.anonymous = true ∨ ¬tag <+: entry.location.toList

/-- A line without a carriage return at its end, which would be taken for a part of the line end. -/
def Unreturned (line : List Char) : Prop := line.getLast? ≠ some '\r'

/-- A text lists entries, in their order. A line may do without a line end at the end of the text. -/
inductive Lists : List Entry → List Char → Prop where
  | nothing : Lists [] []
  | last {entry : Entry} (hwritable : entry.Writable) (hend : Unreturned entry.toLine) :
      Lists [entry] entry.toLine
  | blank {entries : List Entry} {text : List Char} (lineEnd : LineEnd) (hrest : Lists entries text) :
      Lists entries (lineEnd.chars ++ text)
  | entry {entry : Entry} {entries : List Entry} {text : List Char} (lineEnd : LineEnd)
      (hwritable : entry.Writable) (hend : lineEnd = .feed → Unreturned entry.toLine)
      (hrest : Lists entries text) :
      Lists (entry :: entries) (entry.toLine ++ lineEnd.chars ++ text)

theorem dropReturn_concat (line : List Char) : dropReturn (line ++ ['\r']) = line := by
  induction line with
  | nil => rfl
  | cons c rest ih =>
      rw [List.cons_append, dropReturn, ih]
      intro _ hnone
      exact List.concat_ne_nil _ _ hnone

theorem dropReturn_of_unreturned (h : Unreturned line) : dropReturn line = line := by
  fun_induction dropReturn line with
  | case1 => rfl
  | case2 => exact absurd rfl h
  | case3 c rest hmore ih =>
      rw [ih]
      intro hlast
      apply h
      rw [List.getLast?_cons, hlast]
      rfl

theorem mem_of_mem_dropReturn {c : Char} (h : c ∈ dropReturn line) : c ∈ line := by
  fun_induction dropReturn line with
  | case1 => exact h
  | case2 => exact absurd h List.not_mem_nil
  | case3 first rest hmore ih =>
      rcases List.mem_cons.mp h with rfl | hrest
      · exact List.mem_cons_self
      · exact List.mem_cons_of_mem first (ih hrest)

theorem listedLines_append (front back : List Char) :
    listedLines (front ++ '\n' :: back) = listedLines front ++ listedLines back := by
  rw [listedLines, Text.splitOn_append, List.map_append, List.filter_append]
  rfl

theorem parse_append (front back : List Char) :
    parse (front ++ '\n' :: back) = parse front ++ parse back := by
  rw [parse, listedLines_append, List.map_append]
  rfl

theorem parse_of_line (hsingle : '\n' ∉ line) :
    parse line = if dropReturn line = [] then [] else [ofLine (dropReturn line)] := by
  rw [parse, listedLines, Text.splitOn_of_not_mem hsingle]
  by_cases hblank : dropReturn line = [] <;> simp [hblank]

/-- A line with its end is read before the rest of the text. -/
theorem parse_line_append (lineEnd : LineEnd) (hsingle : '\n' ∉ line)
    (hend : lineEnd = .feed → Unreturned line) (text : List Char) :
    parse (line ++ lineEnd.chars ++ text) =
      (if line = [] then [] else [ofLine line]) ++ parse text := by
  cases lineEnd with
  | feed =>
      rw [LineEnd.chars, List.append_assoc, List.singleton_append, parse_append,
        parse_of_line hsingle, dropReturn_of_unreturned (hend rfl)]
  | returnAndFeed =>
      have hreturned : '\n' ∉ line ++ ['\r'] := by simp [hsingle]
      have htext : line ++ ['\r', '\n'] ++ text = (line ++ ['\r']) ++ '\n' :: text := by simp
      rw [LineEnd.chars, htext, parse_append, parse_of_line hreturned, dropReturn_concat]

namespace Writable

theorem ofLine_toLine (h : entry.Writable) : ofLine entry.toLine = entry := by
  apply Entry.ofLine_toLine
  rcases h.untagged with hanonymous | hno
  · exact .inl hanonymous
  · rw [← List.isPrefixOf_iff_prefix, Bool.not_eq_true] at hno
    exact .inr hno

end Writable

/-- The entry that a line lists can be written, if the line is not blank and is a single one. -/
theorem writable_ofLine (hnonblank : line ≠ []) (hsingle : '\n' ∉ line) : (ofLine line).Writable := by
  refine ⟨?_, ?_, ?_⟩
  · rwa [toLine_ofLine]
  · rwa [toLine_ofLine]
  · unfold ofLine
    split
    · exact .inl rfl
    · rename_i hno
      rw [List.isPrefixOf_iff_prefix] at hno
      exact .inr (by simpa using hno)

theorem writable_of_mem_parse (h : entry ∈ parse content) : entry.Writable := by
  obtain ⟨line, hlisted, rfl⟩ := List.mem_map.mp h
  obtain ⟨hline, hnonblank⟩ := List.mem_filter.mp hlisted
  obtain ⟨whole, hwhole, rfl⟩ := List.mem_map.mp hline
  apply writable_ofLine
  · simpa using hnonblank
  · exact fun hmem => Text.not_mem_of_mem_splitOn hwhole (mem_of_mem_dropReturn hmem)

/-- Reading a text that lists entries gives these entries. -/
theorem parse_of_lists (h : Lists entries text) : parse text = entries := by
  induction h with
  | nothing => rfl
  | last hwritable hend =>
      rw [parse_of_line hwritable.single, dropReturn_of_unreturned hend, if_neg hwritable.nonblank,
        hwritable.ofLine_toLine]
  | blank lineEnd hrest ih =>
      have hnone : '\n' ∉ ([] : List Char) := List.not_mem_nil
      rw [← List.nil_append lineEnd.chars, parse_line_append lineEnd hnone fun _ => nofun, ih]
      rfl
  | entry lineEnd hwritable hend hrest ih =>
      rw [parse_line_append lineEnd hwritable.single hend, if_neg hwritable.nonblank,
        hwritable.ofLine_toLine, ih]
      rfl

/-- Entries that can be written are listed by their lines, each ended in the same way. -/
theorem lists_flatMap (lineEnd : LineEnd) (h : ∀ entry ∈ entries, entry.Writable)
    (hend : lineEnd = .feed → ∀ entry ∈ entries, Unreturned entry.toLine) :
    Lists entries (entries.flatMap fun entry => entry.toLine ++ lineEnd.chars) := by
  induction entries with
  | nil => exact .nothing
  | cons entry rest ih =>
      rw [List.flatMap_cons]
      refine .entry lineEnd (h entry List.mem_cons_self) ?_ ?_
      · intro hfeed
        exact hend hfeed entry List.mem_cons_self
      · apply ih
        · exact fun other hmem => h other (List.mem_cons_of_mem entry hmem)
        · exact fun hfeed other hmem => hend hfeed other (List.mem_cons_of_mem entry hmem)

/-- Reading decodes exactly the format of a mounts file. Every text that lists entries, whatever the line
ends and wherever the blank lines, gives back these entries, in their order. The entries of any text,
written one per line with a carriage return and a line feed, give themselves again. And a line feed
between two texts parts them into what the one and what the other lists. -/
theorem parse_decodes_format :
    (∀ entries text, Lists entries text → parse text = entries) ∧
    (∀ content, parse ((parse content).flatMap fun entry => entry.toLine ++ ['\r', '\n']) =
      parse content) ∧
    ∀ front back, parse (front ++ '\n' :: back) = parse front ++ parse back := by
  refine ⟨fun _ _ => parse_of_lists, ?_, parse_append⟩
  intro content
  exact parse_of_lists (lists_flatMap .returnAndFeed (fun _ => writable_of_mem_parse) nofun)

/-- A carriage return at the end of a location stays if the line has one of its own, a tag within a
location is part of it, and a tag alone is the line of an empty location. -/
theorem sample_listing_is_read :
    let entries := [⟨"a\r", false⟩, ⟨"[anonymous]x", true⟩, ⟨"", true⟩]
    let text := "a\r\r\n\n[anonymous][anonymous]x\n\r\n[anonymous]".toList
    Lists entries text ∧ parse text = entries := by
  intro entries text
  have hlists : Lists entries text :=
    .entry .returnAndFeed ⟨by decide, by decide, .inr (by decide)⟩ nofun
      (.blank .feed
        (.entry .feed ⟨by decide, by decide, .inl rfl⟩ (fun _ => by rw [Unreturned]; decide)
          (.blank .returnAndFeed
            (.last ⟨by decide, by decide, .inl rfl⟩ (by rw [Unreturned]; decide)))))
  exact ⟨hlists, parse_decodes_format.1 entries text hlists⟩

end SessionMounts.Entry
