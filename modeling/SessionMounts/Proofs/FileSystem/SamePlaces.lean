import SessionMounts.Proofs.FileSystem.Walking

/-!
File systems with directories and files in the same places. What the files hold makes no difference to
where a text leads, to the place that it names, or to the reason why it leads nowhere (`SamePlaces`). Nodes
that are put or erased at the same places of two such file systems keep them so, and change them alike
(`ChangedAlike`).
-/

namespace SessionMounts.FileSystem

/-- Two file systems with the same user and working directory, and with directories and files in the same
places, whatever the files hold. -/
structure SamePlaces (files other : FileSystem) : Prop extends Alike files other where
  user : other.user = files.user
  free : ∀ location, other.node? location = none ↔ files.node? location = none

namespace SamePlaces

variable {files other : FileSystem} (h : SamePlaces files other)

include h

theorem walk (location : Location) (names : List (List Char)) :
    other.walk location names = files.walk location names := by
  induction names generalizing location with
  | nil => rfl
  | cons name rest ih =>
      rw [FileSystem.walk, FileSystem.walk]
      by_cases hdirectory : files.node? location = some .directory
      · rw [hdirectory, (h.directories location).mpr hdirectory]
        dsimp only
        rw [ih location, ih location.dropLast, ih (location ++ [name])]
        cases hnode : files.node? (location ++ [name]) with
        | none => rw [(h.free _).mpr hnode]
        | some node =>
            have hstands : other.node? (location ++ [name]) ≠ none := by
              rw [Ne, h.free, hnode]
              exact Option.some_ne_none node
            obtain ⟨found, hfound⟩ := Option.ne_none_iff_exists'.mp hstands
            rw [hfound]
      · have hother := mt (h.directories location).mp hdirectory
        split
        · exact absurd ‹_› hother
        · rfl

theorem locate (text : List Char) : other.locate text = files.locate text := by
  rw [FileSystem.locate, FileSystem.locate, h.within.origin, h.walk]

theorem place (text : List Char) : other.place text = files.place text := by
  rw [FileSystem.place, FileSystem.place, h.within.origin, h.walk]
  cases check text with
  | error denial => rfl
  | ok passed =>
      cases files.walk (files.origin text) (steps text).dropLast with
      | error denial => rfl
      | ok directory =>
          dsimp only
          by_cases hdirectory : files.node? directory = some .directory
          · rw [hdirectory, (h.directories directory).mpr hdirectory]
          · have hother := mt (h.directories directory).mp hdirectory
            split
            · exact absurd ‹_› hother
            · rfl

theorem isDirectory (text : List Char) : other.isDirectory text = files.isDirectory text := by
  rw [FileSystem.isDirectory, FileSystem.isDirectory, h.locate]
  split
  · rfl
  · cases files.locate text with
    | error denial => cases denial <;> rfl
    | ok location =>
        have hsame : (other.node? location == some .directory) =
            (files.node? location == some .directory) := by
          rw [Bool.eq_iff_iff, beq_iff_eq, beq_iff_eq]
          exact h.directories location
        dsimp only
        rw [hsame]

end SamePlaces

/-- A file with something else in it stands in the same place. -/
theorem samePlaces_put_file {files : FileSystem} {location : Location} {old : File}
    (hold : files.node? location = some (.file old)) (file : File) :
    SamePlaces files (files.put location (.file file)) := by
  have hno : files.node? location ≠ some .directory := by
    rw [hold]
    rintro ⟨⟩
  refine ⟨alike_put hno file, rfl, ?_⟩
  intro other
  rw [node?_put (not_prefix_of_node? hno)]
  split
  · rename_i hhere
    rw [hhere, hold]
    exact iff_of_false nofun nofun
  · rfl

/-- Two file systems after changes: wherever one of them is not as it was, the other shows the same. -/
structure ChangedAlike (files other after otherAfter : FileSystem) : Prop
    extends SamePlaces after otherAfter where
  changes : ∀ location, otherAfter.node? location = after.node? location ∨
    (after.node? location = files.node? location ∧
      otherAfter.node? location = other.node? location)

variable {files other after otherAfter : FileSystem}

/-- Changes that show the same keep files and directories in the same places. -/
theorem SamePlaces.changedAlike (h : SamePlaces files other)
    (hworking : otherAfter.workingDirectory = after.workingDirectory)
    (huser : otherAfter.user = after.user)
    (hchanges : ∀ location, otherAfter.node? location = after.node? location ∨
      (after.node? location = files.node? location ∧
        otherAfter.node? location = other.node? location)) :
    ChangedAlike files other after otherAfter where
  workingDirectory := hworking
  user := huser
  directories := by
    intro location
    obtain hsame | ⟨hafter, hother⟩ := hchanges location
    · rw [hsame]
    · rw [hafter, hother]
      exact h.directories location
  free := by
    intro location
    obtain hsame | ⟨hafter, hother⟩ := hchanges location
    · rw [hsame]
    · rw [hafter, hother]
      exact h.free location
  changes := hchanges

theorem SamePlaces.put (h : SamePlaces files other) (location : Location) (node : Node) :
    ChangedAlike files other (files.put location node) (other.put location node) := by
  refine h.changedAlike h.workingDirectory h.user fun place => ?_
  rw [node?_put_eq, node?_put_eq, h.workingDirectory]
  split
  · exact .inl rfl
  · split
    · exact .inl rfl
    · exact .inr ⟨rfl, rfl⟩

theorem SamePlaces.erase (h : SamePlaces files other) (location : Location) :
    ChangedAlike files other (files.erase location) (other.erase location) := by
  refine h.changedAlike h.workingDirectory h.user fun place => ?_
  rw [node?_erase_eq, node?_erase_eq, h.workingDirectory]
  split
  · exact .inl rfl
  · split
    · exact .inl rfl
    · exact .inr ⟨rfl, rfl⟩

namespace ChangedAlike

theorem unchanged (h : SamePlaces files other) : ChangedAlike files other files other :=
  ⟨h, fun _ => .inr ⟨rfl, rfl⟩⟩

theorem trans {last otherLast : FileSystem} (h : ChangedAlike files other after otherAfter)
    (hnext : ChangedAlike after otherAfter last otherLast) :
    ChangedAlike files other last otherLast := by
  refine ⟨hnext.toSamePlaces, ?_⟩
  intro location
  obtain hsame | ⟨hlast, hother⟩ := hnext.changes location
  · exact .inl hsame
  · rw [hlast, hother]
    exact h.changes location

theorem put (h : ChangedAlike files other after otherAfter) (location : Location) (node : Node) :
    ChangedAlike files other (after.put location node) (otherAfter.put location node) :=
  h.trans (h.toSamePlaces.put location node)

theorem erase (h : ChangedAlike files other after otherAfter) (location : Location) :
    ChangedAlike files other (after.erase location) (otherAfter.erase location) :=
  h.trans (h.toSamePlaces.erase location)

end ChangedAlike

end SessionMounts.FileSystem
