import Mathlib.Data.List.Basic
import SessionMounts.MountsFile.Write
import SessionMounts.Proofs.FileSystem.Naming
import SessionMounts.Proofs.FileSystem.Walking

/-!
Writing a mounts file is all or nothing. Until the last step nothing but the temporary file comes into
being, in a place where nothing stood, so that taking it away again leaves the files as they were; and
the last step puts the complete file, with its owner, in the place of the target. What stands at the
target is therefore at every moment what stood there before, or all that was to be written
(`write_all_or_nothing`).
-/

namespace SessionMounts.MountsFile

variable {files : FileSystem} {interference : Interference} {suffix : String} {path : Path}
  {content : List UInt8} {owner : Owner} {temporary : Location}

/-- The name of the temporary file is a name, and nothing stands there. -/
structure Fresh (files : FileSystem) (suffix : String) (path : Path) : Prop where
  name : '/' ∉ suffix.toList
  free : ∀ location, files.place (temporaryPath files path suffix).chars = .ok location →
    files.node? location = none

/-- The states with a temporary file. -/
def Staged (files : FileSystem) (temporary : Location) (stages : List FileSystem) : Prop :=
  ∀ stage ∈ stages, ∃ file, stage = files.put temporary (.file file)

/-- What the steps after the creation of the temporary file can come to: it is taken away again, or it
replaces the file in the place that the path names. -/
inductive Settled (files : FileSystem) (path : Path) (temporary : Location) (content : List UInt8)
    (owner : Owner) (written : Written) : Prop where
  | undone (hresult : ∃ error, written.result = .error error)
      (hfiles : written.files = files.erase temporary)
      (hstages : Staged files temporary written.stages)
  | done {target : Location} (hresult : written.result = .ok ()) (hnul : '\x00' ∉ path.chars)
      (hplace : (files.put temporary (.file { content := content, owner := owner })).place
        path.chars = .ok target)
      (hfiles : written.files =
        (files.erase temporary).put target (.file { content := content, owner := owner }))
      (hstages : Staged files temporary written.stages)

theorem Staged.concat {stages : List FileSystem} (h : Staged files temporary stages) (file : File) :
    Staged files temporary (stages ++ [files.put temporary (.file file)]) := by
  intro stage hmem
  rcases List.mem_append.mp hmem with hmem | hmem
  · exact h stage hmem
  · exact ⟨file, List.mem_singleton.mp hmem⟩

/-- A file system with a temporary file is cleaned up by taking that away. -/
theorem settled_cleanedUp {stages : List FileSystem} (h : Staged files temporary stages) (file : File)
    (owners : List Owner) (error : WriteError) :
    Settled files path temporary content owner
      (cleanedUp (files.put temporary (.file file)) temporary stages owners error) :=
  .undone ⟨error, rfl⟩ (FileSystem.erase_put ..) h

theorem settled_install {stages : List FileSystem} (h : Staged files temporary stages) (file : File)
    (path temporaryPath : Path) :
    Settled files path temporary content (owner.replacing files.user)
      (install (files.put temporary (.file file)) interference path temporaryPath temporary content
        owner stages) := by
  unfold install
  split
  · exact settled_cleanedUp h file _ _
  · split
    · exact settled_cleanedUp h file _ _
    · dsimp only
      rw [FileSystem.put_put]
      have hstages := h.concat { content := content, owner := owner.replacing files.user }
      split
      · exact settled_cleanedUp hstages _ _ _
      · rename_i hnul
        split
        · exact settled_cleanedUp hstages _ _ _
        · exact settled_cleanedUp hstages _ _ _
        · rename_i target hrename hplace
          refine .done rfl (by simpa using hnul) hplace ?_ hstages
          rw [FileSystem.erase_put]
          rfl

/-- What writing can come to: it is refused before a temporary file comes into being, or it goes on
with one. -/
inductive Course (files : FileSystem) (suffix : String) (path : Path) (content : List UInt8)
    (owner : Owner) (written : Written) : Prop where
  | refused (hresult : ∃ error, written.result = .error error) (hfiles : written.files = files)
      (hstages : written.stages = [])
  | begun {temporary : Location} (hdirectory : files.isDirectory path.chars = .ok false)
      (hplace : files.place (temporaryPath files path suffix).chars = .ok temporary)
      (hsettled : Settled files path temporary content owner written)

theorem course_replace (hdirectory : files.isDirectory path.chars = .ok false) :
    Course files suffix path content (owner.replacing files.user)
      (replace files interference suffix path content owner) := by
  unfold replace
  dsimp only
  split
  · exact .refused ⟨_, rfl⟩ rfl rfl
  · split
    · exact .refused ⟨_, rfl⟩ rfl rfl
    · exact .refused ⟨_, rfl⟩ rfl rfl
    · rename_i temporary hcreate hplace
      have hcreated : Staged files temporary
          [files.put temporary (.file { content := [], owner := files.user })] :=
        fun stage hmem => ⟨_, List.mem_singleton.mp hmem⟩
      refine .begun hdirectory hplace ?_
      split
      · exact settled_cleanedUp hcreated _ _ _
      · rw [FileSystem.put_put]
        exact settled_install (hcreated.concat _) _ path _

theorem course_write (verbose : Bool) (files : FileSystem) (interference : Interference)
    (suffix target : String) (values : List String) (owner : Owner) :
    Course files suffix (Path.parse target) (bytesOf values) (owner.replacing files.user)
      (write verbose files interference suffix target values owner) := by
  unfold write
  dsimp only
  split
  · exact .refused ⟨_, rfl⟩ rfl rfl
  · split
    · exact .refused ⟨_, rfl⟩ rfl rfl
    · exact .refused ⟨_, rfl⟩ rfl rfl
    · exact .refused ⟨_, rfl⟩ rfl rfl
    · rename_i hdirectory
      have hreplaced : Course files suffix (Path.parse target) (bytesOf values)
          (owner.replacing files.user)
          (replace files interference suffix (Path.parse target) (bytesOf values) owner) :=
        course_replace hdirectory
      cases hreplaced with
      | refused hresult hfiles hstages => exact .refused hresult hfiles hstages
      | begun hdirectory hplace hsettled =>
          refine .begun hdirectory hplace ?_
          cases hsettled with
          | undone hresult hfiles hstages => exact .undone hresult hfiles hstages
          | done hresult hnul hplace hfiles hstages => exact .done hresult hnul hplace hfiles hstages

/-- The temporary file has another last name than the path. -/
theorem last_ne (files : FileSystem) (target : String) (hslash : '/' ∉ suffix.toList) :
    ∃ front last before name, FileSystem.steps (Path.parse target).chars = front ++ [last] ∧
      FileSystem.steps (temporaryPath files (Path.parse target) suffix).chars = before ++ [name] ∧
      last ≠ name := by
  let path := Path.parse target
  let name := ['.'] ++ path.name ++ ['.'] ++ suffix.toList
  have hlength : path.name.length + 2 ≤ name.length := by
    simp only [name, List.length_append, List.length_singleton]
    omega
  obtain ⟨front, last, hfront, hlast⟩ := Path.exists_steps_parse target
  have hname : '/' ∉ path.name := Path.slash_notMem_name target
  let directory := path.parent.absolute files.workingDirectory
  obtain ⟨before, hbefore⟩ := Path.exists_steps_chars directory.root directory.names
    (show '/' ∉ name by simp [name, hname, hslash]) (List.ne_nil_of_length_pos (by omega))
  refine ⟨front, last, before, name, hfront, hbefore, ?_⟩
  intro heq
  rcases hlast with hdot | hlast
  · rw [← heq, hdot, List.length_singleton] at hlength
    omega
  · rw [← heq, show last = path.name from hlast] at hlength
    omega

/-- A temporary file in a free place is not seen at the target, and goes without a trace. -/
theorem temporary_unseen {target : String} (hfresh : Fresh files suffix (Path.parse target))
    (hplace : files.place (temporaryPath files (Path.parse target) suffix).chars = .ok temporary) :
    files.erase temporary = files ∧
      (∀ file, FileSystem.Alike files (files.put temporary (.file file))) ∧
      ∀ stage, (∃ file, stage = files.put temporary (.file file)) →
        stage.nodeAt? (Path.parse target).chars = files.nodeAt? (Path.parse target).chars := by
  have hfree := hfresh.free temporary hplace
  obtain ⟨front, last, before, name, hfront, hbefore, hne⟩ := last_ne files target hfresh.name
  obtain ⟨-, directory, -, -, -, rfl⟩ := (FileSystem.place_iff hbefore).mp hplace
  refine ⟨FileSystem.erase_of_free hfree, ?_, ?_⟩
  · exact FileSystem.alike_put (by rw [hfree]; rintro ⟨⟩)
  · rintro stage ⟨file, rfl⟩
    exact FileSystem.nodeAt?_put_of_ne hfront hne hfree file

/-- The path names a place that the system can be asked for. -/
def Named (files : FileSystem) (path : Path) : Prop :=
  '\x00' ∉ path.chars ∧ ∃ location, files.place path.chars = .ok location

theorem named_iff_of_alike {other : FileSystem} (h : FileSystem.Alike files other) :
    Named other path ↔ Named files path := by
  constructor
  · rintro ⟨hnul, location, hplace⟩
    exact ⟨hnul, location, h.symm.place hplace⟩
  · rintro ⟨hnul, location, hplace⟩
    exact ⟨hnul, location, h.place hplace⟩

/-- An owner is in range if the system can represent its numbers. -/
theorem outOfRange?_eq_none_iff :
    outOfRange? owner = none ↔ owner.user < 0x100000000 ∧ owner.group < 0x100000000 := by
  unfold outOfRange?
  split
  · exact iff_of_false (by rintro ⟨⟩) (by omega)
  · split
    · exact iff_of_false (by rintro ⟨⟩) (by omega)
    · exact iff_of_true rfl (by omega)

theorem install_eq_ok_iff {path temporaryPath : Path} {stages : List FileSystem} :
    (install files interference path temporaryPath temporary content owner stages).result = .ok () ↔
      outOfRange? owner = none ∧ interference .chown = none ∧ interference .rename = none ∧
        Named (files.put temporary
          (.file { content := content, owner := owner.replacing files.user })) path := by
  rw [install, Named]
  cases outOfRange? owner with
  | some range => simp [cleanedUp]
  | none =>
      cases interference .chown with
      | some error => simp [cleanedUp]
      | none =>
          dsimp only
          by_cases hnul : path.chars.contains '\x00' = true
          · rw [if_pos hnul]
            rw [List.contains_iff_mem] at hnul
            simp [cleanedUp, hnul]
          · rw [if_neg hnul]
            rw [List.contains_iff_mem] at hnul
            cases interference .rename with
            | some error => simp [cleanedUp]
            | none =>
                cases (files.put temporary
                  (.file { content := content, owner := owner.replacing files.user })).place
                  path.chars with
                | error denial => simp [cleanedUp]
                | ok target => simp [hnul]

/-- Replacing succeeds if none of its steps is refused, the owner is in range, and both paths name
places. -/
theorem replace_eq_ok_iff
    (halike : ∀ temporary, files.place (temporaryPath files path suffix).chars = .ok temporary →
      ∀ file, FileSystem.Alike files (files.put temporary (.file file))) :
    (replace files interference suffix path content owner).result = .ok () ↔
      (∀ step, step ≠ .inspect → interference step = none) ∧ outOfRange? owner = none ∧
        Named files (temporaryPath files path suffix) ∧ Named files path := by
  have hsteps : (∀ step, step ≠ .inspect → interference step = none) ↔
      interference .create = none ∧ interference .fill = none ∧ interference .chown = none ∧
        interference .rename = none := by
    constructor
    · intro h
      exact ⟨h _ nofun, h _ nofun, h _ nofun, h _ nofun⟩
    · rintro ⟨hcreate, hfill, hchown, hrename⟩ step hstep
      cases step with
      | inspect => exact absurd rfl hstep
      | create => exact hcreate
      | fill => exact hfill
      | chown => exact hchown
      | rename => exact hrename
  rw [hsteps, replace, Named]
  dsimp only
  by_cases hnul : (temporaryPath files path suffix).chars.contains '\x00' = true
  · rw [if_pos hnul]
    rw [List.contains_iff_mem] at hnul
    simp [hnul]
  · rw [if_neg hnul]
    rw [List.contains_iff_mem] at hnul
    cases interference .create with
    | some error => simp
    | none =>
        cases hplace : files.place (temporaryPath files path suffix).chars with
        | error denial => simp
        | ok temporary =>
            cases interference .fill with
            | some error => simp [cleanedUp]
            | none =>
                dsimp only
                rw [install_eq_ok_iff, FileSystem.put_put, FileSystem.put_put,
                  named_iff_of_alike (halike temporary hplace _)]
                simp only [hnul, true_and, not_false_eq_true, Except.ok.injEq, exists_eq']
                grind

/-- No step of writing is refused: the owner's numbers are ones that the system can represent, the path
names a place with no directory in it, and so does that of the temporary file. -/
structure Unrefused (files : FileSystem) (interference : Interference) (suffix : String) (path : Path)
    (owner : Owner) : Prop where
  steps : ∀ step, interference step = none
  user : 0 ≤ owner.user ∧ owner.user < 0x100000000
  group : 0 ≤ owner.group ∧ owner.group < 0x100000000
  directory : files.isDirectory path.chars = .ok false
  temporary : Named files (temporaryPath files path suffix)
  target : Named files path

theorem write_eq_ok_iff {target : String} (verbose : Bool) (values : List String)
    (hfresh : Fresh files suffix (Path.parse target)) :
    (write verbose files interference suffix target values owner).result = .ok () ↔
      Unrefused files interference suffix (Path.parse target) owner := by
  rw [write]
  dsimp only
  cases hvalid : owner.valid with
  | false =>
      refine iff_of_false (by rintro ⟨⟩) fun h => ?_
      simp [Owner.valid, h.user.1, h.group.1] at hvalid
  | true =>
      simp only [Owner.valid, Bool.and_eq_true, decide_eq_true_eq] at hvalid
      have hinspect : ∀ h : Named files (Path.parse target),
          (if (Path.parse target).chars.contains '\x00' then none else interference .inspect) =
            interference .inspect := fun h => if_neg (by simpa using h.1)
      rw [if_neg (show ¬(!true) = true by decide)]
      split
      · rename_i error hrefusal
        refine iff_of_false (by rintro ⟨⟩) fun h => ?_
        rw [hinspect h.target, h.steps] at hrefusal
        cases hrefusal
      · rename_i hdirectory
        refine iff_of_false (by rintro ⟨⟩) fun h => ?_
        cases hdirectory.symm.trans h.directory
      · rename_i hdirectory
        refine iff_of_false (by rintro ⟨⟩) fun h => ?_
        cases hdirectory.symm.trans h.directory
      · rename_i hrefusal hdirectory
        refine (replace_eq_ok_iff fun temporary hplace =>
          (temporary_unseen hfresh hplace).2.1).trans ?_
        rw [outOfRange?_eq_none_iff]
        constructor
        · rintro ⟨hsteps, ⟨huser, hgroup⟩, htemporary, htarget⟩
          rw [hinspect htarget] at hrefusal
          refine ⟨fun step => ?_, ⟨hvalid.1, huser⟩, ⟨hvalid.2, hgroup⟩, hdirectory, htemporary,
            htarget⟩
          by_cases hstep : step = .inspect
          · rw [hstep, hrefusal]
          · exact hsteps step hstep
        · intro h
          exact ⟨fun step _ => h.steps step, ⟨h.user.2, h.group.2⟩, h.temporary, h.target⟩

/-- The node of the complete file. -/
def complete (values : List String) (owner : Owner) : Node :=
  .file { content := Utf8.encode (values.flatMap fun value => value.toList ++ ['\n']), owner := owner }

/-- The file goes to the owner exactly if neither number asks for no change, unless it is the current
user's or group's own. -/
theorem complete_replacing_iff {values : List String} {current : Owner} :
    complete values (owner.replacing current) = complete values owner ↔
      (owner.user = Owner.unchanged → current.user = owner.user) ∧
        (owner.group = Owner.unchanged → current.group = owner.group) := by
  obtain ⟨user, group⟩ := owner
  simp only [complete, Owner.replacing, Node.file.injEq, File.mk.injEq, true_and, and_true,
    Owner.mk.injEq, ite_eq_right_iff]

/-- The place of the target holds the complete file, and nothing else has changed. -/
structure Replaced (files after : FileSystem) (path : List Char) (node : Node) (location : Location) :
    Prop where
  place : files.place path = .ok location
  locate : after.locate path = .ok location
  node : after.node? location = some node
  others : ∀ other, other ≠ location → after.node? other = files.node? other
  workingDirectory : after.workingDirectory = files.workingDirectory
  user : after.user = files.user

theorem replaced_of_place {target : String} {location : Location} (file : File)
    (hnul : '\x00' ∉ (Path.parse target).chars)
    (hdirectory : files.isDirectory (Path.parse target).chars = .ok false)
    (hplace : files.place (Path.parse target).chars = .ok location) :
    Replaced files (files.put location (.file file)) (Path.parse target).chars (.file file)
      location := by
  obtain ⟨front, last, hfront, -⟩ := Path.exists_steps_parse target
  obtain ⟨hplain, hno⟩ := FileSystem.plain_of_isDirectory hnul hfront hdirectory hplace
  have hnode := FileSystem.node?_put (FileSystem.not_prefix_of_node? hno) (.file file)
  exact {
    place := hplace
    locate := FileSystem.locate_put hfront hplain hplace hno file
    node := by rw [hnode, if_pos rfl]
    others := fun other hother => by rw [hnode, if_neg hother]
    workingDirectory := rfl
    user := rfl }

/-- With a fresh temporary name the files are kept as they were or the target is replaced. -/
theorem Course.kept_or_replaced {target : String} {values : List String} {written : Written}
    (h : Course files suffix (Path.parse target) (bytesOf values) owner written)
    (hfresh : Fresh files suffix (Path.parse target)) :
    (∀ error, written.result = .error error → written.files = files) ∧
      (written.result = .ok () → ∃ location, Replaced files written.files
        (Path.parse target).chars (complete values owner) location) ∧
      ∀ state ∈ written.stages ++ [written.files],
        state.nodeAt? (Path.parse target).chars = files.nodeAt? (Path.parse target).chars ∨
          state.nodeAt? (Path.parse target).chars = some (complete values owner) := by
  cases h with
  | refused hresult hfiles hstages =>
      obtain ⟨error, hresult⟩ := hresult
      refine ⟨fun _ _ => hfiles, fun hok => ?_, ?_⟩
      · cases hresult.symm.trans hok
      · rw [hstages, List.nil_append, hfiles]
        exact List.forall_mem_singleton.mpr (.inl rfl)
  | @begun temporary hdirectory hplace hsettled =>
      obtain ⟨herase, halike, hstage⟩ := temporary_unseen hfresh hplace
      cases hsettled with
      | undone hresult hfiles hstages =>
          obtain ⟨error, hresult⟩ := hresult
          rw [herase] at hfiles
          refine ⟨fun _ _ => hfiles, fun hok => ?_, List.forall_mem_append.mpr ⟨?_, ?_⟩⟩
          · cases hresult.symm.trans hok
          · exact fun stage hmem => .inl (hstage stage (hstages stage hmem))
          · rw [hfiles]
            exact List.forall_mem_singleton.mpr (.inl rfl)
      | done hresult hnul hplace hfiles hstages =>
          have hreplaced := replaced_of_place { content := bytesOf values, owner := owner } hnul
            hdirectory ((halike _).symm.place hplace)
          rw [herase] at hfiles
          rw [← hfiles] at hreplaced
          refine ⟨fun error herror => ?_, fun _ => ⟨_, hreplaced⟩,
            List.forall_mem_append.mpr ⟨?_, List.forall_mem_singleton.mpr (.inr ?_)⟩⟩
          · cases hresult.symm.trans herror
          · exact fun stage hmem => .inl (hstage stage (hstages stage hmem))
          · exact FileSystem.nodeAt?_eq_some_iff.mpr ⟨_, hreplaced.locate, hreplaced.node⟩

/-- Writing is all or nothing, whichever step is refused, if the temporary name is fresh. It succeeds if
nothing is refused, and only then. A write that fails leaves the files exactly as they were. After one
that succeeds the place that the path names holds each value with a line feed after it, in UTF-8, and
nothing else has changed. In every state on the way there stands at the path what stood there before, or
the complete file; what the temporary file holds, half of the content for one, is not seen there. An owner
with a negative number is refused without a look at the files, whatever they are. The complete file
belongs to the owner unless one of its numbers is the one by which the system is asked for no change; then
the current user or group is left in that place. -/
theorem write_all_or_nothing (verbose : Bool) (files : FileSystem) (interference : Interference)
    (suffix target : String) (values : List String) (owner : Owner) :
    let path := Path.parse target
    let written := write verbose files interference suffix target values owner
    (owner.user < 0 ∨ owner.group < 0 →
      written = { result := .error (.invalidOwner owner), files := files }) ∧
    (Fresh files suffix path →
      (written.result = .ok () ↔ Unrefused files interference suffix path owner) ∧
      (∀ error, written.result = .error error → written.files = files) ∧
      (written.result = .ok () → ∃ location, Replaced files written.files path.chars
        (complete values (owner.replacing files.user)) location) ∧
      (∀ state ∈ written.stages ++ [written.files],
        state.nodeAt? path.chars = files.nodeAt? path.chars ∨
          state.nodeAt? path.chars = some (complete values (owner.replacing files.user))) ∧
      ∀ temporary file, files.place (temporaryPath files path suffix).chars = .ok temporary →
        (files.put temporary (.file file)).nodeAt? path.chars = files.nodeAt? path.chars) ∧
    (complete values (owner.replacing files.user) = complete values owner ↔
      (owner.user = Owner.unchanged → files.user.user = owner.user) ∧
        (owner.group = Owner.unchanged → files.user.group = owner.group)) := by
  intro path written
  refine ⟨?_, ?_, complete_replacing_iff⟩
  · intro hnegative
    have hinvalid : owner.valid = false := by
      simp only [Owner.valid, Bool.and_eq_false_iff, decide_eq_false_iff_not]
      omega
    simp only [written, write, hinvalid]
    rfl
  · intro hfresh
    obtain ⟨hkept, hreplaced, hstates⟩ :=
      (course_write verbose files interference suffix target values owner).kept_or_replaced hfresh
    refine ⟨write_eq_ok_iff verbose values hfresh, hkept, hreplaced, hstates, ?_⟩
    intro temporary file hplace
    exact (temporary_unseen hfresh hplace).2.2 _ ⟨file, rfl⟩

/-- A directory with a mounts file of somebody else. -/
def sampleFiles : FileSystem where
  workingDirectory := [['w']]
  user := ⟨1000, 1000⟩
  nodes := [([['w'], ['d']], .directory),
    ([['w'], ['d'], ['m']], .file { content := Utf8.encode "old\n".toList, owner := ⟨1, 2⟩ })]

theorem fresh_sample : Fresh sampleFiles "k3_" (Path.parse "d/..//d/m") := by
  have hplace : sampleFiles.place (temporaryPath sampleFiles (Path.parse "d/..//d/m") "k3_").chars =
      .ok [['w'], ['d'], ".m.k3_".toList] := by decide +kernel
  refine ⟨by decide +kernel, fun location hlocation => ?_⟩
  cases hplace.symm.trans hlocation
  decide +kernel

/-- The mounts file is replaced if nothing is refused, and all is as it was if the owner is. -/
theorem sample_is_replaced_or_kept :
    (∃ location, Replaced sampleFiles
        (write false sampleFiles (fun _ => none) "k3_" "d/..//d/m" ["smb://h/ä", "b"] ⟨0, 7⟩).files
        (Path.parse "d/..//d/m").chars (complete ["smb://h/ä", "b"] ⟨0, 7⟩) location) ∧
      (write false sampleFiles (fun step => if step = .chown then some (.plain "refused") else none)
        "k3_" "d/..//d/m" ["b"] ⟨0, 7⟩).files = sampleFiles := by
  constructor
  · obtain ⟨-, hwritten, howner⟩ := write_all_or_nothing false sampleFiles (fun _ => none) "k3_"
      "d/..//d/m" ["smb://h/ä", "b"] ⟨0, 7⟩
    rw [← howner.mpr (by decide)]
    exact (hwritten fresh_sample).2.2.1 (by decide +kernel)
  · obtain ⟨-, hwritten, -⟩ := write_all_or_nothing false sampleFiles
      (fun step => if step = .chown then some (.plain "refused") else none) "k3_" "d/..//d/m" ["b"]
      ⟨0, 7⟩
    exact (hwritten fresh_sample).2.1 (.system (.plain "refused")) (by decide +kernel)

/-- A write for the user 4294967295 succeeds, and the file goes to the current user instead. -/
theorem user_of_greatest_number_is_not_given_the_file :
    let written := write false sampleFiles (fun _ => none) "k3_" "d/..//d/m" ["b"] ⟨4294967295, 7⟩
    Fresh sampleFiles "k3_" (Path.parse "d/..//d/m") ∧ written.result = .ok () ∧
      written.files.nodeAt? (Path.parse "d/..//d/m").chars = some (complete ["b"] ⟨1000, 7⟩) ∧
      complete ["b"] ⟨1000, 7⟩ ≠ complete ["b"] ⟨4294967295, 7⟩ := by
  refine ⟨fresh_sample, ?_, ?_, ?_⟩ <;> decide +kernel

end SessionMounts.MountsFile
