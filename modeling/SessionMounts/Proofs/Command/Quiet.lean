import SessionMounts.Proofs.Command.Arguments
import SessionMounts.Proofs.Command.ExitCode
import SessionMounts.Proofs.MountTool.Interview
import SessionMounts.Proofs.MountsFile.Quiet

/-!
The command in a verbose and in a quiet run. A switch or the environment may ask for debug messages, and the
command hands the wish on to mounting and to writing. Neither does anything else for it, and what the
command itself prints is told in both runs. So a command that is run once more with debug messages comes to the
same, and prints the same besides them.
-/

namespace SessionMounts.Command

open Console (Log Output)
open Mounting (Backend Backends)
open MountsFile (Handled Interference Problem Written)

variable {σ : Type}

/-- What came of a command, without the debug messages. -/
def Finished.quiet (finished : Finished σ) : Finished σ :=
  { finished with output := finished.output.quiet }

/-- The world with another value of the variable that asks for debug messages. -/
def World.debugging (world : World σ) (debug : Option String) : World σ :=
  { world with environment := { world.environment with debug := debug } }

/-- Runs a command that is verbose at once if the environment asks for debug messages. -/
def start (backends : Backends σ) (world : World σ) (interference : Interference) (suffix : String)
    (words : List String) : Finished σ :=
  run backends world world.environment.verbose interference suffix words

theorem quiet_outcomeOf (problem : Problem) :
    Log.quiet (outcomeOf problem).2 = (outcomeOf problem).2 := by
  cases problem with
  | file error => cases error <;> rfl
  | unavailable reason => rfl
  | failed failures => rfl
  | refused refusal => rfl
  | waiting => rfl

section Run

variable (backends : Backends σ) (world : World σ) (debug : Option String) (verbose : Bool)
  (interference : Interference) (suffix : String)

theorem quiet_mount (provider : Option Backend) (mountsFile : String) :
    (mount backends (world.debugging debug) verbose provider mountsFile).quiet =
      mount backends world false provider mountsFile := by
  have hhandled := MountsFile.quiet_mountSelecting backends (provider.map Backend.name)
    world.environment debug verbose world.files mountsFile world.state
  rw [mount, mount, ← hhandled]
  simp only [World.debugging]
  obtain ⟨result, state, docket, acts, output⟩ :=
    MountsFile.mountSelecting backends (provider.map Backend.name)
      { world.environment with debug := debug } verbose world.files mountsFile world.state
  simp only [Finished.quiet, Handled.quiet, Output.quiet_append, Output.quiet_front]
  cases result with
  | error problem => simp only [quiet_outcomeOf]
  | ok value => rfl

theorem quiet_writeValues (values : List String) (mountsFile : String) (owner : Owner) :
    (writeValues (world.debugging debug) verbose interference suffix values mountsFile owner).quiet =
      writeValues world false interference suffix values mountsFile owner := by
  rw [writeValues, writeValues, ← MountsFile.quiet_write verbose]
  simp only [World.debugging]
  obtain ⟨result, files, stages, owners, log⟩ :=
    MountsFile.write verbose world.files interference suffix mountsFile values owner
  simp only [Finished.quiet, Written.quiet, Output.quiet_front, Log.quiet_append]
  cases result with
  | ok value => rfl
  | error error => cases error <;> rfl

theorem quiet_writeFrom (policyFile mountsFile : String) (ownership : Ownership) :
    (writeFrom (world.debugging debug) verbose interference suffix policyFile mountsFile
        ownership).quiet =
      writeFrom world false interference suffix policyFile mountsFile ownership := by
  unfold writeFrom World.debugging
  dsimp only
  split
  · rfl
  · split
    · rfl
    · exact quiet_writeValues world debug verbose interference suffix ..

theorem quiet_runWith (arguments : Arguments) :
    (runWith backends (world.debugging debug) verbose interference suffix arguments).quiet =
      runWith backends world false interference suffix arguments.hushed := by
  have hpolicy : arguments.hushed.policyFile? = arguments.policyFile? := rfl
  rw [runWith, runWith, hpolicy]
  cases arguments.policyFile? with
  | some policyFile => exact quiet_writeFrom world debug _ interference suffix ..
  | none => exact quiet_mount backends world debug _ ..

/-- A command line that is refused, or asks for help, prints no debug messages. One that is not has the
arguments of the other command line, and the run is quiet without the switch. -/
theorem quiet_run {words words' : List String}
    (hwords : asksVerbose words world.environment.parser = false)
    (halike : SameButVerbose world.environment.parser words words') :
    (run backends (world.debugging debug) verbose interference suffix words').quiet =
      run backends world false interference suffix words := by
  rw [asksVerbose] at hwords
  have hparser : (world.debugging debug).environment.parser = world.environment.parser := rfl
  rw [run, run, hparser]
  rcases alike_cases halike with
    ⟨stop, hparse', hparse⟩ | ⟨arguments', arguments, hparse', hparse, hsame⟩
  · rw [hparse', hparse]
    cases stop <;> rfl
  · rw [hparse] at hwords
    have hquiet : arguments.hushed = arguments := by
      rw [Arguments.hushed, ← hwords]
    rw [hparse', hparse]
    dsimp only
    rw [quiet_runWith, hsame, hquiet]

end Run

/-- Debug messages change nothing but what is printed, and there only themselves. This is so for mounting
entries with any provider, and for every course of the steps that a provider may mix into a run; for
mounting one location by the tool, whoever answers its challenges; for reading and for writing a
mounts file; and for the whole command, whether a switch or the environment asks for them. -/
theorem debug_messages_change_nothing_else {σ τ : Type} :
    (∀ (provider : Mounting.Provider σ) ticket state entries,
      (provider.mount ticket true state entries).quiet =
        provider.mount ticket false state entries) ∧
    (∀ (run : Mounting.Run) actions, run.steps? true actions = run.steps? false actions) ∧
    (∀ (loop : InProcess.Loop) actions, loop.steps? true actions = loop.steps? false actions) ∧
    (∀ (party : Mounting.DiscreetParty τ) command worker state request location anonymous heard,
      ((MountTool.mount command worker state request location anonymous).run true
          (party.inRun true) heard).quiet =
        (MountTool.mount command worker state request location anonymous).run false
          (party.inRun false) heard) ∧
    (∀ files path,
      ((MountsFile.read true files path).1, Log.quiet (MountsFile.read true files path).2) =
        MountsFile.read false files path) ∧
    (∀ files interference suffix target values owner,
      (MountsFile.write true files interference suffix target values owner).quiet =
        MountsFile.write false files interference suffix target values owner) ∧
    (∀ (backends : Backends σ) world debug interference suffix words words',
      world.environment.verbose = false → asksVerbose words world.environment.parser = false →
      SameButVerbose world.environment.parser words words' →
      (start backends (world.debugging debug) interference suffix words').quiet =
        start backends world interference suffix words) ∧
    ∀ parser words, SameButVerbose parser words ("-v" :: words) := by
  refine ⟨?_, ?_, ?_, ?_, ?_, ?_, ?_, sameButVerbose_cons⟩
  · intro provider ticket state entries
    exact provider.quiet_mount ticket true state entries
  · intro run actions
    exact run.steps?_quiet true actions
  · intro loop actions
    exact loop.steps?_quiet true actions
  · intro party command worker state request location anonymous heard
    exact Mounting.Conduct.quiet_run party true _ heard
  · intro files path
    exact MountsFile.quiet_read true files path
  · intro files interference suffix target values owner
    exact MountsFile.quiet_write true files interference suffix target values owner
  · intro backends world debug interference suffix words words' hcalm hwords halike
    rw [start, start, hcalm]
    exact quiet_run backends world debug _ interference suffix hwords halike

/-- The switch and the variable at once add debug messages to a command that fails, and nothing else; and a
tool that is stopped at its second prompt is stopped there in both runs. -/
theorem sample_command_is_only_louder :
    let quiet := start ⟨none, Mounting.Scripted.provider⟩ sampleWorld (fun _ => none) "x" ["m"]
    let loud := start ⟨none, Mounting.Scripted.provider⟩ (sampleWorld.debugging (some "1"))
      (fun _ => none) "x" ["-v", "m"]
    let party := Mounting.rehearsedParty false
    let stopped := MountTool.mount "gio" none MountTool.strict 0 "smb://h/a" false
    loud.quiet = quiet ∧ loud.output ≠ quiet.output ∧
      (stopped.run true (party.inRun true) ([.handled, .unhandled], {})).quiet =
        stopped.run false (party.inRun false) ([.handled, .unhandled], {}) := by
  intro quiet loud party stopped
  obtain ⟨-, -, -, htool, -, -, hcommand, hswitch⟩ :=
    @debug_messages_change_nothing_else Mounting.Scripted.State (List Auth.Reply × Auth.Gate)
  refine ⟨?_, by decide +kernel, htool ..⟩
  exact hcommand _ sampleWorld _ _ _ _ _ (by decide) (by decide +kernel) (hswitch _ ["m"])

end SessionMounts.Command
