import SessionMounts.Proofs.FileSystem.SamePlaces
import SessionMounts.Proofs.MountsFile.AllOrNothing

/-!
Writing a mounts file reads no file. Over two file systems with files in the same places it comes to the
same result, asks for the same owners, prints the same and changes the files alike, whatever they hold
(`agree_write`). An owner that the system cannot represent comes to light exactly if the temporary file
has been filled (`write_eq_outOfRange_iff`).
-/

namespace SessionMounts.MountsFile

open FileSystem (ChangedAlike SamePlaces)

variable {files other after otherAfter : FileSystem} {interference : Interference} {suffix : String}
  {path staging : Path} {temporary : Location} {content : List UInt8} {owner : Owner}
  {stages otherStages : List FileSystem} {written otherWritten : Written}

/-- Two writes that show the same. -/
structure Agree (files other : FileSystem) (written otherWritten : Written) : Prop where
  result : otherWritten.result = written.result
  owners : otherWritten.owners = written.owners
  log : otherWritten.log = written.log
  files : ChangedAlike files other written.files otherWritten.files

theorem agree_cleanedUp (h : ChangedAlike files other after otherAfter) (owners : List Owner)
    (error : WriteError) :
    Agree files other (cleanedUp after temporary stages owners error)
      (cleanedUp otherAfter temporary otherStages owners error) :=
  ⟨rfl, rfl, rfl, h.erase temporary⟩

theorem agree_install (h : ChangedAlike files other after otherAfter) :
    Agree files other
      (install after interference path staging temporary content owner stages)
      (install otherAfter interference path staging temporary content owner otherStages) := by
  unfold install
  cases outOfRange? owner with
  | some range => exact agree_cleanedUp h _ _
  | none =>
      cases interference .chown with
      | some error => exact agree_cleanedUp h _ _
      | none =>
          have howned := h.put temporary
            (.file { content := content, owner := owner.replacing after.user })
          dsimp only
          rw [h.user, howned.place]
          split
          · exact agree_cleanedUp howned _ _
          · split
            · exact agree_cleanedUp howned _ _
            · exact agree_cleanedUp howned _ _
            · exact ⟨rfl, rfl, rfl, (howned.erase temporary).put _ _⟩

theorem agree_replace (h : SamePlaces files other) (interference : Interference) (suffix : String)
    (path : Path) (content : List UInt8) (owner : Owner) :
    Agree files other (replace files interference suffix path content owner)
      (replace other interference suffix path content owner) := by
  have hunchanged := ChangedAlike.unchanged h
  have hpath : temporaryPath other path suffix =
      temporaryPath files path suffix := by
    rw [temporaryPath, h.workingDirectory]
    rfl
  unfold replace
  dsimp only
  rw [hpath, h.place, h.user]
  split
  · exact ⟨rfl, rfl, rfl, hunchanged⟩
  · split
    · exact ⟨rfl, rfl, rfl, hunchanged⟩
    · exact ⟨rfl, rfl, rfl, hunchanged⟩
    · rename_i temporary hcreate hplace
      have hcreated := hunchanged.put temporary (.file { content := [], owner := files.user })
      split
      · exact agree_cleanedUp hcreated _ _
      · exact agree_install (hcreated.put temporary _)

theorem agree_write (h : SamePlaces files other) (verbose : Bool) (interference : Interference)
    (suffix target : String) (values : List String) (owner : Owner) :
    Agree files other (write verbose files interference suffix target values owner)
      (write verbose other interference suffix target values owner) := by
  have hunchanged := ChangedAlike.unchanged h
  unfold write
  dsimp only
  rw [h.isDirectory]
  split
  · exact ⟨rfl, rfl, rfl, hunchanged⟩
  · split
    · exact ⟨rfl, rfl, rfl, hunchanged⟩
    · exact ⟨rfl, rfl, rfl, hunchanged⟩
    · exact ⟨rfl, rfl, rfl, hunchanged⟩
    · have hreplaced :=
        agree_replace h interference suffix (Path.parse target) (bytesOf values) owner
      refine ⟨hreplaced.result, hreplaced.owners, ?_, hreplaced.files⟩
      dsimp only
      rw [hreplaced.log]

theorem install_eq_outOfRange_iff {range : OutOfRange} :
    (install files interference path staging temporary content owner stages).result =
        .error (.outOfRange range) ↔ outOfRange? owner = some range := by
  rw [install]
  cases outOfRange? owner with
  | some found => simp [cleanedUp]
  | none =>
      refine iff_of_false (fun h => ?_) (by rintro ⟨⟩)
      dsimp only at h
      split at h
      · cases h
      · split at h
        · cases h
        · split at h <;> cases h

/-- Writing gets as far as the complete temporary file. -/
structure Filled (files : FileSystem) (interference : Interference) (suffix : String) (path : Path)
    (owner : Owner) : Prop where
  valid : 0 ≤ owner.user ∧ 0 ≤ owner.group
  inspected : '\x00' ∈ path.chars ∨ interference .inspect = none
  directory : files.isDirectory path.chars = .ok false
  place : Named files (temporaryPath files path suffix)
  created : interference .create = none
  filled : interference .fill = none

theorem replace_eq_outOfRange_iff {range : OutOfRange} :
    (replace files interference suffix path content owner).result = .error (.outOfRange range) ↔
      Named files (temporaryPath files path suffix) ∧ interference .create = none ∧
        interference .fill = none ∧ outOfRange? owner = some range := by
  rw [replace, Named]
  dsimp only
  by_cases hnul : (temporaryPath files path suffix).chars.contains '\x00' = true
  · rw [if_pos hnul]
    rw [List.contains_iff_mem] at hnul
    simp [hnul]
  · rw [if_neg hnul]
    rw [List.contains_iff_mem] at hnul
    cases interference .create with
    | some error => simp
    | none =>
        cases files.place (temporaryPath files path suffix).chars with
        | error denial => simp
        | ok temporary =>
            cases interference .fill with
            | some error => simp [cleanedUp]
            | none =>
                dsimp only
                rw [install_eq_outOfRange_iff]
                simp [hnul]

/-- A write is stopped by an owner that the system cannot represent exactly if it gets as far as the
complete temporary file. -/
theorem write_eq_outOfRange_iff {verbose : Bool} {target : String} {values : List String}
    {range : OutOfRange} :
    (write verbose files interference suffix target values owner).result =
        .error (.outOfRange range) ↔
      Filled files interference suffix (Path.parse target) owner ∧ outOfRange? owner = some range := by
  rw [write]
  dsimp only
  cases hvalid : owner.valid with
  | false =>
      refine iff_of_false (by rintro ⟨⟩) fun h => ?_
      simp [Owner.valid, h.1.valid] at hvalid
  | true =>
      simp only [Owner.valid, Bool.and_eq_true, decide_eq_true_eq] at hvalid
      have hinspected : '\x00' ∈ (Path.parse target).chars ∨ interference .inspect = none ↔
          (if (Path.parse target).chars.contains '\x00' then none else interference .inspect) =
            none := by
        rw [← List.contains_iff_mem]
        split <;> simp_all
      rw [if_neg (show ¬(!true) = true by decide)]
      split
      · rename_i error hrefusal
        refine iff_of_false (by rintro ⟨⟩) fun h => ?_
        rw [hinspected.mp h.1.inspected] at hrefusal
        cases hrefusal
      · rename_i hdirectory
        refine iff_of_false (by rintro ⟨⟩) fun h => ?_
        cases hdirectory.symm.trans h.1.directory
      · rename_i hdirectory
        refine iff_of_false (by rintro ⟨⟩) fun h => ?_
        cases hdirectory.symm.trans h.1.directory
      · rename_i hrefusal hdirectory
        refine replace_eq_outOfRange_iff.trans ?_
        constructor
        · rintro ⟨hplace, hcreated, hfilled, hrange⟩
          exact ⟨⟨hvalid, hinspected.mpr hrefusal, hdirectory, hplace, hcreated, hfilled⟩, hrange⟩
        · rintro ⟨h, hrange⟩
          exact ⟨h.place, h.created, h.filled, hrange⟩

end SessionMounts.MountsFile
