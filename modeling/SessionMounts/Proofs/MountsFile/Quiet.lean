import SessionMounts.MountsFile.Mount
import SessionMounts.MountsFile.Write
import SessionMounts.Proofs.Mounting.Quiet

/-!
Mounts files in a verbose and in a quiet run. Reading one, writing one and mounting what one lists come to the
same in both, but for the debug messages. What is written is told by nothing else.
-/

namespace SessionMounts.MountsFile

open Console (Log Output)
open Mounting (Backends Ending Mounted Provider Unavailable)

theorem quiet_read (verbose : Bool) (files : FileSystem) (path : String) :
    ((read verbose files path).1, Log.quiet (read verbose files path).2) =
      read false files path := by
  unfold read
  dsimp only
  split
  · rw [Console.quiet_debug_eq]
  · rw [Console.quiet_debug_eq]
  · rw [Log.quiet_append, Console.quiet_debug_eq]
    rfl

section Writing

variable {files : FileSystem} {interference : Interference} {suffix : String} {owner : Owner}

theorem log_install (path temporaryPath : Path) (temporary : Location) (content : List UInt8)
    (stages : List FileSystem) :
    (install files interference path temporaryPath temporary content owner stages).log = [] := by
  unfold install
  split
  · rfl
  · split
    · rfl
    · dsimp only
      split
      · rfl
      · split <;> rfl

theorem log_replace (path : Path) (content : List UInt8) :
    (replace files interference suffix path content owner).log = [] := by
  unfold replace
  dsimp only
  split
  · rfl
  · split
    · rfl
    · rfl
    · split
      · rfl
      · exact log_install ..

/-- What writing comes to, without the debug messages. -/
def Written.quiet (written : Written) : Written :=
  { written with log := written.log.quiet }

theorem quiet_write (verbose : Bool) (files : FileSystem) (interference : Interference)
    (suffix target : String) (values : List String) (owner : Owner) :
    (write verbose files interference suffix target values owner).quiet =
      write false files interference suffix target values owner := by
  unfold write
  dsimp only
  split
  · rfl
  · split
    · rfl
    · rfl
    · rfl
    · simp only [Written.quiet, log_replace, List.append_nil, Console.quiet_debug_eq]

end Writing

section Mounting

variable {σ : Type}

/-- What mounting a mounts file comes to, without the debug messages. -/
def Handled.quiet (handled : Handled σ) : Handled σ :=
  { handled with output := handled.output.quiet }

theorem quiet_conclude (path : String) (ending : Ending) :
    Log.quiet (conclude path ending).2 = (conclude path ending).2 := by
  cases ending <;> rfl

/-- If the ways of mounting in the two runs come to the same, so does mounting a mounts file. -/
theorem quiet_handle (verbose : Bool) (files : FileSystem) (path : String) (state : σ)
    {loud calm : List Entry → Except Unavailable (Mounted σ)}
    (hmount : ∀ entries, (loud entries).map Mounted.quiet = calm entries) :
    (handle verbose files path state loud).quiet = handle false files path state calm := by
  rw [handle, handle, ← quiet_read verbose]
  obtain ⟨result, log⟩ := read verbose files path
  cases result with
  | error error => rfl
  | ok entries =>
      cases entries with
      | nil => rfl
      | cons entry rest =>
          simp only [← hmount]
          cases loud (entry :: rest) with
          | error reason =>
              simp only [Except.map, Handled.quiet, Output.quiet_front, Log.quiet_append,
                Console.quiet_info]
          | ok mounted =>
              simp only [Except.map, Handled.quiet, Mounted.quiet, Output.quiet_append,
                Output.quiet_front, Log.quiet_append, Console.quiet_info, quiet_conclude]

theorem quiet_mountOnce (provider : Provider σ) (ticket verbose : Bool) (state : σ)
    (entries : List Entry) :
    (mountOnce provider ticket verbose state entries).quiet =
      mountOnce provider ticket false state entries := by
  rw [mountOnce, mountOnce, ← provider.quiet_mount ticket verbose]
  let mounted := provider.mount ticket verbose (provider.build state) entries
  cases hending : mounted.ending <;> simp only [mounted, Mounted.quiet, hending]

/-- Mounting what a mounts file lists comes to the same in a verbose and in a quiet run, whatever the
environment says of debug messages. -/
theorem quiet_mountSelecting (backends : Backends σ) (given : Option String)
    (environment : Environment) (debug : Option String) (verbose : Bool) (files : FileSystem)
    (path : String) (state : σ) :
    (mountSelecting backends given { environment with debug := debug } verbose files path state).quiet =
      mountSelecting backends given environment false files path state := by
  apply quiet_handle
  intro entries
  have hselect : backends.select given { environment with debug := debug } =
      backends.select given environment := rfl
  rw [hselect]
  cases backends.select given environment with
  | error reason => rfl
  | ok chosen => exact congrArg Except.ok (quiet_mountOnce chosen.2 environment.ticket ..)

end Mounting

end SessionMounts.MountsFile
