import SessionMounts.Proofs.FileSystem.Naming

/-!
Walking through file systems that differ in files only. What one name does is said once
(`Passes`, `walk_cons_iff`). A text leads through directories, so it leads to the same location in a file
system that has these directories too, as far as something stands there (`Within.walk`), and names the
same place in a directory (`Within.place`). A file in a place where nothing stood changes what stands
there, and nothing else that a text leads to.
-/

namespace SessionMounts.FileSystem

variable {files other : FileSystem} {location reached : Location} {name : List Char}
  {names : List (List Char)}

/-- The name of a node in a directory, and not a dot or a parent dot. -/
def Plain (name : List Char) : Prop := name ≠ ['.'] ∧ name ≠ ['.', '.']

/-- Where one name leads to from a location. -/
inductive Passes (files : FileSystem) (location : Location) : List Char → Location → Prop where
  | dot : Passes files location ['.'] location
  | parent : Passes files location ['.', '.'] location.dropLast
  | child {name : List Char} {node : Node} (hplain : Plain name)
      (hnode : files.node? (location ++ [name]) = some node) :
      Passes files location name (location ++ [name])

section Steps

variable {rest : List (List Char)}

/-- A name is passed from a directory, if it is not too long and leads somewhere. -/
theorem walk_cons_iff :
    files.walk location (name :: rest) = .ok reached ↔
      files.node? location = some .directory ∧ tooLong name = false ∧
        ∃ next, files.Passes location name next ∧ files.walk next rest = .ok reached := by
  rw [walk]
  constructor
  · intro h
    split at h
    · rename_i hdirectory
      cases hshort : tooLong name with
      | true => simp [hshort] at h
      | false =>
          simp only [hshort, Bool.false_eq_true, if_false] at h
          refine ⟨hdirectory, rfl, ?_⟩
          by_cases hdot : name = ['.']
          · subst hdot
            exact ⟨location, .dot, h⟩
          · by_cases hparent : name = ['.', '.']
            · subst hparent
              exact ⟨location.dropLast, .parent, h⟩
            · rw [if_neg hdot, if_neg hparent] at h
              split at h
              · exact ⟨location ++ [name], .child ⟨hdot, hparent⟩ ‹_›, h⟩
              · cases h
    · cases h
  · rintro ⟨hdirectory, hshort, next, hpasses, hrest⟩
    simp only [hdirectory, hshort, Bool.false_eq_true, if_false]
    cases hpasses with
    | dot => exact hrest
    | parent => exact hrest
    | child hplain hnode =>
        rw [if_neg hplain.1, if_neg hplain.2, hnode]
        exact hrest

theorem walk_append_iff {front : List (List Char)} :
    files.walk location (front ++ rest) = .ok reached ↔
      ∃ middle, files.walk location front = .ok middle ∧ files.walk middle rest = .ok reached := by
  induction front generalizing location with
  | nil =>
      constructor
      · exact fun h => ⟨location, rfl, h⟩
      · rintro ⟨middle, hfront, hrest⟩
        cases hfront
        exact hrest
  | cons first others ih =>
      rw [List.cons_append, walk_cons_iff]
      constructor
      · rintro ⟨hdirectory, hshort, next, hpasses, hnext⟩
        obtain ⟨middle, hothers, hrest⟩ := ih.mp hnext
        exact ⟨middle, walk_cons_iff.mpr ⟨hdirectory, hshort, next, hpasses, hothers⟩, hrest⟩
      · rintro ⟨middle, hfront, hrest⟩
        obtain ⟨hdirectory, hshort, next, hpasses, hothers⟩ := walk_cons_iff.mp hfront
        exact ⟨hdirectory, hshort, next, hpasses, ih.mpr ⟨middle, hothers, hrest⟩⟩

end Steps

/-- The directories above a location exist. -/
def Rooted (files : FileSystem) (location : Location) : Prop :=
  ∀ above name, above ++ [name] <+: location → files.node? above = some .directory

theorem node?_of_prefix (h : location <+: files.workingDirectory) :
    files.node? location = some .directory := by
  rw [node?, if_pos (List.isPrefixOf_iff_prefix.mpr h)]

theorem rooted_origin (files : FileSystem) (text : List Char) : files.Rooted (files.origin text) := by
  intro above name h
  unfold origin at h
  split at h
  · exact absurd (List.prefix_nil.mp h) (List.append_ne_nil_of_right_ne_nil above (by simp))
  · exact node?_of_prefix ((List.prefix_append above [name]).trans h)

namespace Rooted

/-- One step up leads to a directory, from the root to the root itself. -/
theorem parent (h : files.Rooted location) : files.node? location.dropLast = some .directory := by
  rcases List.eq_nil_or_concat location with rfl | ⟨above, name, rfl⟩
  · exact node?_of_prefix List.nil_prefix
  · rw [List.concat_eq_append] at h ⊢
    rw [List.dropLast_concat]
    exact h above name (List.prefix_refl _)

theorem passes (h : files.Rooted location) (hdirectory : files.node? location = some .directory)
    (hpasses : files.Passes location name reached) : files.Rooted reached := by
  cases hpasses with
  | dot => exact h
  | parent =>
      intro above next hbefore
      exact h above next (hbefore.trans (List.dropLast_prefix location))
  | child hplain hnode =>
      intro above next hbefore
      rcases List.prefix_concat_iff.mp hbefore with heq | hbefore
      · rw [(List.append_inj' heq rfl).1]
        exact hdirectory
      · exact h above next hbefore

theorem walk (h : files.Rooted location) (hwalk : files.walk location names = .ok reached) :
    files.Rooted reached := by
  induction names generalizing location with
  | nil =>
      cases hwalk
      exact h
  | cons name rest ih =>
      obtain ⟨hdirectory, -, next, hpasses, hrest⟩ := walk_cons_iff.mp hwalk
      exact ih (h.passes hdirectory hpasses) hrest

end Rooted

/-- Dots lead from a directory to a directory. -/
theorem passes_of_not_plain (h : files.Rooted location)
    (hdirectory : files.node? location = some .directory) (hdots : ¬Plain name) :
    ∃ above, files.Passes location name above ∧ files.node? above = some .directory := by
  by_cases hdot : name = ['.']
  · subst hdot
    exact ⟨location, .dot, hdirectory⟩
  · by_cases hparent : name = ['.', '.']
    · subst hparent
      exact ⟨location.dropLast, .parent, h.parent⟩
    · exact absurd ⟨hdot, hparent⟩ hdots

section LastName

variable {text : List Char} {front : List (List Char)} {last : List Char}

theorem exists_steps (text : List Char) : ∃ front last, steps text = front ++ [last] := by
  rcases List.eq_nil_or_concat (steps text) with hnone | ⟨front, last, hsteps⟩
  · exact absurd hnone (steps_ne_nil text)
  · exact ⟨front, last, hsteps.trans List.concat_eq_append⟩

/-- A text leads from the directory before its last name to where that name leads. -/
theorem locate_iff (hsteps : steps text = front ++ [last]) :
    files.locate text = .ok reached ↔
      check text = .ok () ∧ ∃ directory, files.walk (files.origin text) front = .ok directory ∧
        files.node? directory = some .directory ∧ tooLong last = false ∧
        files.Passes directory last reached := by
  rw [locate, hsteps]
  cases check text with
  | error denial => exact iff_of_false (by rintro ⟨⟩) (by rintro ⟨⟨⟩, -⟩)
  | ok passed =>
      dsimp only
      rw [walk_append_iff]
      constructor
      · rintro ⟨directory, hfront, hlast⟩
        obtain ⟨hdirectory, hshort, next, hpasses, hnext⟩ := walk_cons_iff.mp hlast
        cases hnext
        exact ⟨rfl, directory, hfront, hdirectory, hshort, hpasses⟩
      · rintro ⟨-, directory, hfront, hdirectory, hshort, hpasses⟩
        exact ⟨directory, hfront,
          walk_cons_iff.mpr ⟨hdirectory, hshort, reached, hpasses, rfl⟩⟩

/-- The place that a text names has its last name, whatever stands there. -/
theorem place_iff (hsteps : steps text = front ++ [last]) :
    files.place text = .ok reached ↔
      check text = .ok () ∧ ∃ directory, files.walk (files.origin text) front = .ok directory ∧
        files.node? directory = some .directory ∧ tooLong last = false ∧
        reached = directory ++ [last] := by
  rw [place, hsteps]
  cases check text with
  | error denial => exact iff_of_false (by rintro ⟨⟩) (by rintro ⟨⟨⟩, -⟩)
  | ok passed =>
      dsimp only
      rw [List.dropLast_concat, List.getLast?_concat, Option.getD_some]
      constructor
      · intro h
        split at h
        · cases h
        · rename_i directory hfront
          split at h
          · rename_i hdirectory
            cases hshort : tooLong last with
            | true => simp [hshort] at h
            | false =>
                simp only [hshort, Bool.false_eq_true, if_false, Except.ok.injEq] at h
                exact ⟨rfl, directory, hfront, hdirectory, rfl, h.symm⟩
          · cases h
      · rintro ⟨-, directory, hfront, hdirectory, hshort, rfl⟩
        simp only [hfront, hdirectory, hshort, Bool.false_eq_true, if_false]

/-- A text with another last name does not lead to a file. -/
theorem ne_of_locate {above : Location} (hsteps : steps text = front ++ [last]) (hne : last ≠ name)
    (hfile : files.node? (above ++ [name]) ≠ some .directory)
    (h : files.locate text = .ok reached) : reached ≠ above ++ [name] := by
  obtain ⟨-, directory, hfront, hdirectory, -, hpasses⟩ := (locate_iff hsteps).mp h
  cases hpasses with
  | dot =>
      rintro rfl
      exact hfile hdirectory
  | parent =>
      intro heq
      rw [← heq] at hfile
      exact hfile ((files.rooted_origin text).walk hfront).parent
  | child hplain hnode =>
      intro heq
      exact hne (List.singleton_inj.mp (List.append_inj' heq rfl).2)

/-- A text that names a place, and no directory, has a plain last name. -/
theorem plain_of_isDirectory (hnul : '\x00' ∉ text) (hsteps : steps text = front ++ [last])
    (hdirectory : files.isDirectory text = .ok false) (hplace : files.place text = .ok location) :
    Plain last ∧ files.node? location ≠ some .directory := by
  obtain ⟨hcheck, directory, hfront, hparent, hshort, rfl⟩ := (place_iff hsteps).mp hplace
  have hno : ∀ found, files.Passes directory last found → files.node? found ≠ some .directory := by
    intro found hpasses hfound
    have hlocate := (locate_iff hsteps).mpr ⟨hcheck, directory, hfront, hparent, hshort, hpasses⟩
    rw [isDirectory, if_neg (by simpa using hnul), hlocate] at hdirectory
    simp [hfound] at hdirectory
  have hplain : Plain last := by
    refine Classical.byContradiction fun hdots => ?_
    obtain ⟨above, hpasses, habove⟩ :=
      passes_of_not_plain ((files.rooted_origin text).walk hfront) hparent hdots
    exact hno above hpasses habove
  exact ⟨hplain, fun hnode => hno _ (.child hplain hnode) hnode⟩

end LastName

/-- What stands where a text leads to, if it leads anywhere. -/
def nodeAt? (files : FileSystem) (text : List Char) : Option Node :=
  match files.locate text with
  | .error _ => none
  | .ok location => files.node? location

theorem nodeAt?_eq_some_iff {text : List Char} {node : Node} :
    files.nodeAt? text = some node ↔
      ∃ location, files.locate text = .ok location ∧ files.node? location = some node := by
  rw [nodeAt?]
  cases files.locate text with
  | error denial => exact iff_of_false (by rintro ⟨⟩) (by rintro ⟨location, ⟨⟩, -⟩)
  | ok location =>
      constructor
      · exact fun hnode => ⟨location, rfl, hnode⟩
      · rintro ⟨_, ⟨⟩, hnode⟩
        exact hnode

/-- Every directory of the first file system is one of the second, and both are seen from the same
one. -/
structure Within (files other : FileSystem) : Prop where
  workingDirectory : other.workingDirectory = files.workingDirectory
  directory : ∀ {location},
    files.node? location = some .directory → other.node? location = some .directory

namespace Within

theorem origin (h : Within files other) (text : List Char) :
    other.origin text = files.origin text := by
  unfold FileSystem.origin
  split
  · rfl
  · exact h.workingDirectory

theorem passes (hpasses : files.Passes location name reached) (hstands : other.node? reached ≠ none) :
    other.Passes location name reached := by
  cases hpasses with
  | dot => exact .dot
  | parent => exact .parent
  | child hplain hnode =>
      obtain ⟨node, hother⟩ := Option.ne_none_iff_exists'.mp hstands
      exact .child hplain hother

/-- Names lead to the same location in both, if something stands there in the second one. -/
theorem walk (h : Within files other) (hwalk : files.walk location names = .ok reached)
    (hstands : other.node? reached ≠ none) : other.walk location names = .ok reached := by
  induction names generalizing location with
  | nil => exact hwalk
  | cons name rest ih =>
      obtain ⟨hdirectory, hshort, next, hpasses, hrest⟩ := walk_cons_iff.mp hwalk
      -- a name that is not the last one is passed to a directory
      have hnext : other.node? next ≠ none := by
        cases rest with
        | nil =>
            cases hrest
            exact hstands
        | cons second others =>
            rw [h.directory (walk_cons_iff.mp hrest).1]
            exact Option.some_ne_none _
      exact walk_cons_iff.mpr
        ⟨h.directory hdirectory, hshort, next, passes hpasses hnext, ih hrest⟩

theorem locate {text : List Char} (h : Within files other)
    (hlocate : files.locate text = .ok reached) (hstands : other.node? reached ≠ none) :
    other.locate text = .ok reached := by
  rw [FileSystem.locate] at hlocate ⊢
  split at hlocate
  · cases hlocate
  · rw [h.origin]
    exact h.walk hlocate hstands

/-- A text names the same place in both. -/
theorem place {text : List Char} (h : Within files other) (hplace : files.place text = .ok reached) :
    other.place text = .ok reached := by
  obtain ⟨front, last, hsteps⟩ := exists_steps text
  obtain ⟨hcheck, directory, hfront, hdirectory, hshort, hreached⟩ := (place_iff hsteps).mp hplace
  have hother := h.directory hdirectory
  have hwalk := h.walk hfront (by rw [hother]; exact Option.some_ne_none _)
  rw [← h.origin] at hwalk
  exact (place_iff hsteps).mpr ⟨hcheck, directory, hwalk, hother, hshort, hreached⟩

/-- A file in the place of anything adds no directory. -/
theorem of_put (files : FileSystem) (location : Location) (file : File) :
    Within (files.put location (.file file)) files where
  workingDirectory := rfl
  directory := by
    intro other h
    rw [node?_put_eq] at h
    split at h
    · exact (if_pos ‹_›)
    · split at h
      · cases h
      · exact h

/-- Where a file stands, no directory is lost by erasing. -/
theorem put_erase (files : FileSystem) (location : Location) (file : File) :
    Within (files.put location (.file file)) (files.erase location) where
  workingDirectory := rfl
  directory := by
    intro other h
    rw [node?_put_eq] at h
    rw [node?_erase_eq]
    split at h
    · rw [if_pos ‹_›]
    · rw [if_neg ‹_›]
      split at h
      · cases h
      · rw [if_neg ‹_›]
        exact h

/-- Erasing adds no directory. -/
theorem of_erase (files : FileSystem) (location : Location) :
    Within (files.erase location) files where
  workingDirectory := rfl
  directory := by
    intro other h
    rw [node?_erase_eq] at h
    split at h
    · exact (if_pos ‹_›)
    · split at h
      · cases h
      · exact h

end Within

/-- Two file systems with the same directories, seen from the same one. -/
structure Alike (files other : FileSystem) : Prop where
  workingDirectory : other.workingDirectory = files.workingDirectory
  directories : ∀ location,
    other.node? location = some .directory ↔ files.node? location = some .directory

namespace Alike

theorem symm (h : Alike files other) : Alike other files :=
  ⟨h.workingDirectory.symm, fun location => (h.directories location).symm⟩

theorem within (h : Alike files other) : Within files other :=
  ⟨h.workingDirectory, fun hdirectory => (h.directories _).mpr hdirectory⟩

theorem locate {text : List Char} (h : Alike files other) (hlocate : files.locate text = .ok reached)
    (hstands : other.node? reached ≠ none) : other.locate text = .ok reached :=
  h.within.locate hlocate hstands

/-- A text names the same place in both. -/
theorem place {text : List Char} (h : Alike files other) (hplace : files.place text = .ok reached) :
    other.place text = .ok reached :=
  h.within.place hplace

end Alike

section Changes

variable {text : List Char} {front : List (List Char)} {last : List Char}

theorem put_put (files : FileSystem) (location : Location) (first second : Node) :
    (files.put location first).put location second = files.put location second := by
  simp [put, without]

theorem erase_put (files : FileSystem) (location : Location) (node : Node) :
    (files.put location node).erase location = files.erase location := by
  simp [put, erase, without]

theorem ne_of_lookup_eq_none {nodes : List (Location × Node)} (h : lookup location nodes = none) :
    ∀ listed ∈ nodes, listed.1 ≠ location := by
  induction nodes with
  | nil => exact fun listed hmem => absurd hmem List.not_mem_nil
  | cons first rest ih =>
      rw [lookup] at h
      split at h
      · cases h
      · rintro listed (_ | ⟨_, hmem⟩)
        · assumption
        · exact ih h listed hmem

theorem not_prefix_of_node? (h : files.node? location ≠ some .directory) :
    location.isPrefixOf files.workingDirectory = false := by
  rw [← Bool.not_eq_true]
  intro hprefix
  rw [node?, if_pos hprefix] at h
  exact h rfl

/-- Where nothing stands, nothing is erased. -/
theorem erase_of_free (h : files.node? location = none) : files.erase location = files := by
  have hout : location.isPrefixOf files.workingDirectory = false :=
    not_prefix_of_node? (by rw [h]; rintro ⟨⟩)
  have hnone : lookup location files.nodes = none := by
    rw [node?, hout] at h
    exact h
  have hkept : without location files.nodes = files.nodes := by
    refine List.filter_eq_self.mpr fun listed hmem => ?_
    exact decide_eq_true (ne_of_lookup_eq_none hnone listed hmem)
  rw [erase, hkept]

/-- A file in a place that is no directory leaves the directories as they are. -/
theorem alike_put (h : files.node? location ≠ some .directory) (file : File) :
    Alike files (files.put location (.file file)) where
  workingDirectory := rfl
  directories := by
    intro other
    rw [node?_put (not_prefix_of_node? h)]
    split
    · rename_i heq
      exact iff_of_false (by rintro ⟨⟩) (by rwa [heq])
    · rfl

/-- A new file in a free place is not seen by a text with another last name. -/
theorem nodeAt?_put_of_ne {above : Location} {name : List Char}
    (hsteps : steps text = front ++ [last]) (hne : last ≠ name)
    (hfree : files.node? (above ++ [name]) = none) (file : File) :
    (files.put (above ++ [name]) (.file file)).nodeAt? text = files.nodeAt? text := by
  have hno : files.node? (above ++ [name]) ≠ some .directory := by
    rw [hfree]
    rintro ⟨⟩
  have halike := alike_put hno file
  have hnode := node?_put (not_prefix_of_node? hno) (.file file)
  refine Option.ext fun found => ?_
  rw [nodeAt?_eq_some_iff, nodeAt?_eq_some_iff]
  constructor
  · rintro ⟨location, hlocate, hfound⟩
    have hother : location ≠ above ++ [name] :=
      ne_of_locate hsteps hne (by rw [hnode, if_pos rfl]; rintro ⟨⟩) hlocate
    rw [hnode, if_neg hother] at hfound
    exact ⟨location, halike.symm.locate hlocate (by rw [hfound]; rintro ⟨⟩), hfound⟩
  · rintro ⟨location, hlocate, hfound⟩
    have hother : location ≠ above ++ [name] := by
      rintro rfl
      cases hfree.symm.trans hfound
    have hstill : (files.put (above ++ [name]) (.file file)).node? location = some found := by
      rw [hnode, if_neg hother, hfound]
    exact ⟨location, halike.locate hlocate (by rw [hstill]; rintro ⟨⟩), hstill⟩

/-- A file that is put where a text names a place is what the text leads to. -/
theorem locate_put (hsteps : steps text = front ++ [last]) (hplain : Plain last)
    (hplace : files.place text = .ok location) (hno : files.node? location ≠ some .directory)
    (file : File) : (files.put location (.file file)).locate text = .ok location := by
  have hafter := (alike_put hno file).place hplace
  obtain ⟨hcheck, directory, hfront, hparent, hshort, rfl⟩ := (place_iff hsteps).mp hafter
  have hnode : (files.put (directory ++ [last]) (.file file)).node? (directory ++ [last]) =
      some (.file file) := by
    rw [node?_put (not_prefix_of_node? hno), if_pos rfl]
  exact (locate_iff hsteps).mpr ⟨hcheck, directory, hfront, hparent, hshort, .child hplain hnode⟩

end Changes

end SessionMounts.FileSystem
