import SessionMounts.FileSystem.Basic
import SessionMounts.Proofs.Text.Lines

/-!
Locations and the names that lead to them. After one node has been put or erased its location shows the
change, and every other location is as it was. The working directory and those above it always exist,
whatever is put or erased there. The last name that is passed when a path in normal form is resolved is
the last name of the path, if that has no slash and is not empty (`exists_steps_chars`), as are all names
of a path that a text writes.
-/

namespace SessionMounts

namespace FileSystem

theorem lookup_append (location : Location) (front back : List (Location × Node)) :
    lookup location (front ++ back) = (lookup location front).or (lookup location back) := by
  induction front with
  | nil => simp [lookup]
  | cons listed rest ih =>
    obtain ⟨other, node⟩ := listed
    by_cases h : other = location <;> simp [lookup, h, ih]

theorem lookup_without_self (location : Location) (nodes : List (Location × Node)) :
    lookup location (without location nodes) = none := by
  induction nodes with
  | nil => rfl
  | cons listed rest ih =>
    obtain ⟨other, node⟩ := listed
    simp only [without, ne_eq, decide_not] at ih ⊢
    by_cases h : other = location <;> simp [lookup, h, ih]

theorem lookup_without_of_ne {location other : Location} (h : other ≠ location)
    (nodes : List (Location × Node)) :
    lookup other (without location nodes) = lookup other nodes := by
  induction nodes with
  | nil => rfl
  | cons listed rest ih =>
    obtain ⟨listedAt, node⟩ := listed
    simp only [without, ne_eq, decide_not] at ih ⊢
    by_cases hl : listedAt = location
    · subst hl; simp [lookup, ih, Ne.symm h]
    · by_cases ho : listedAt = other <;> simp_all [lookup]

/-- What stands where after a node has been put; the working directory's own chain stays. -/
theorem node?_put_eq (files : FileSystem) (location : Location) (node : Node) (other : Location) :
    (files.put location node).node? other =
      if other.isPrefixOf files.workingDirectory then some .directory
      else if other = location then some node else files.node? other := by
  by_cases hchain : other.isPrefixOf files.workingDirectory
  · simp [node?, put, hchain]
  · by_cases h : other = location
    · subst h
      simp [node?, put, hchain, lookup_append, lookup_without_self, lookup]
    · have hs : lookup other [(location, node)] = none := by simp [lookup, Ne.symm h]
      simp [node?, put, hchain, lookup_append, lookup_without_of_ne h, hs, h]

/-- What stands where after a node has been erased. -/
theorem node?_erase_eq (files : FileSystem) (location other : Location) :
    (files.erase location).node? other =
      if other.isPrefixOf files.workingDirectory then some .directory
      else if other = location then none else files.node? other := by
  by_cases hchain : other.isPrefixOf files.workingDirectory
  · simp [node?, erase, hchain]
  · by_cases h : other = location
    · subst h
      simp [node?, erase, hchain, lookup_without_self]
    · simp [node?, erase, hchain, lookup_without_of_ne h, h]

/-- A location outside the working directory's own chain shows the node that is put there. -/
theorem node?_put {files : FileSystem} {location : Location}
    (hout : location.isPrefixOf files.workingDirectory = false) (node : Node) (other : Location) :
    (files.put location node).node? other =
      if other = location then some node else files.node? other := by
  rw [node?_put_eq]
  by_cases h : other = location
  · simp [h, hout]
  · by_cases hchain : other.isPrefixOf files.workingDirectory <;> simp [h, hchain, node?]

theorem steps_append (front back : List Char) :
    steps (front ++ '/' :: back) = steps front ++ steps back := by
  rw [steps, Text.splitOn_append, List.map_append]
  rfl

theorem steps_of_name {name : List Char} (hslash : '/' ∉ name) (hne : name ≠ []) :
    steps name = [name] := by
  rw [steps, Text.splitOn_of_not_mem hslash, List.map_singleton,
    if_neg (by simpa using hne)]

theorem steps_ne_nil (text : List Char) : steps text ≠ [] := by
  rw [steps, Ne, List.map_eq_nil_iff]
  exact Text.splitOn_ne_nil '/' text

end FileSystem

theorem intercalate_concat {names : List (List Char)} (hne : names ≠ []) (name : List Char) :
    ['/'].intercalate (names ++ [name]) = ['/'].intercalate names ++ '/' :: name := by
  induction names with
  | nil => exact absurd rfl hne
  | cons first rest ih =>
      cases rest with
      | nil => simp [List.intercalate, List.intersperse]
      | cons second others =>
          have hrest := ih (List.cons_ne_nil second others)
          rw [List.cons_append, List.cons_append, List.intercalate_cons_cons, ← List.cons_append,
            hrest, List.intercalate_cons_cons]
          simp only [List.append_assoc]

namespace Path

variable {root : PathRoot} {names : List (List Char)} {name : List Char}

/-- Resolving a path ends with its last name. -/
theorem exists_steps_chars (root : PathRoot) (names : List (List Char)) (hslash : '/' ∉ name)
    (hne : name ≠ []) :
    ∃ front, FileSystem.steps (chars ⟨root, names ++ [name]⟩) = front ++ [name] := by
  have hname := FileSystem.steps_of_name hslash hne
  have hchars : chars ⟨root, names ++ [name]⟩ =
      rootText root ++ ['/'].intercalate (names ++ [name]) :=
    if_neg (by rintro ⟨-, hnone⟩; simp at hnone)
  rw [hchars]
  by_cases hnames : names = []
  · subst hnames
    have hone : ['/'].intercalate ([] ++ [name]) = name := by simp [List.intercalate]
    rw [hone]
    cases root with
    | here => exact ⟨[], hname⟩
    | single => exact ⟨_, (FileSystem.steps_append [] name).trans (by rw [hname])⟩
    | double => exact ⟨_, (FileSystem.steps_append ['/'] name).trans (by rw [hname])⟩
  · rw [intercalate_concat hnames, ← List.append_assoc, FileSystem.steps_append, hname]
    exact ⟨_, rfl⟩

/-- The names of a path that a text writes have no slash and are not empty. -/
theorem names_parse {text : String} (h : name ∈ (parse text).names) : '/' ∉ name ∧ name ≠ [] := by
  obtain ⟨hmem, hkept⟩ := List.mem_filter.mp h
  refine ⟨Text.not_mem_of_mem_splitOn hmem, ?_⟩
  rintro rfl
  cases hkept

theorem slash_notMem_name (text : String) : '/' ∉ (parse text).name := by
  rw [name]
  cases hlast : (parse text).names.getLast? with
  | none => exact List.not_mem_nil
  | some last => exact (names_parse (List.mem_of_getLast? hlast)).1

/-- Resolving the path that a text writes ends with its name, or with a dot if it has none. -/
theorem exists_steps_parse (text : String) :
    ∃ front last, FileSystem.steps (parse text).chars = front ++ [last] ∧
      (last = ['.'] ∨ last = (parse text).name) := by
  rcases List.eq_nil_or_concat (parse text).names with hnone | ⟨before, last, hnames⟩
  · have hpath : parse text = ⟨(parse text).root, []⟩ := by rw [← hnone]
    rw [hpath]
    cases (parse text).root with
    | here => exact ⟨[], ['.'], by decide, .inl rfl⟩
    | single => exact ⟨[['.']], ['.'], by decide, .inl rfl⟩
    | double => exact ⟨[['.'], ['.']], ['.'], by decide, .inl rfl⟩
  · rw [List.concat_eq_append] at hnames
    have hlast : (parse text).name = last := by
      rw [name, hnames, List.getLast?_concat, Option.getD_some]
    have hmem : last ∈ (parse text).names := by
      rw [hnames]
      exact List.mem_append_right before (List.mem_singleton_self last)
    obtain ⟨front, hfront⟩ :=
      exists_steps_chars (parse text).root before (names_parse hmem).1 (names_parse hmem).2
    rw [← hnames] at hfront
    exact ⟨front, last, hfront, .inr hlast.symm⟩

end Path

end SessionMounts
