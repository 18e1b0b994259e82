import SessionMounts.InProcess.Loop

/-!
Mounting in a verbose and in a quiet run. Whatever is done in a run that prints debug messages is done in
one that does not, and prints the same but for these messages. Each function that takes part in a run
has one equation that says so: what it comes to, without the debug messages, is what it comes to in a quiet
run. A provider does not know which kind of run it serves; the gates and the settlement know it, but
use it for nothing but debug messages.
-/

namespace SessionMounts

namespace Console

theorem quiet_debug_eq (verbose : Bool) (text : String) :
    Log.quiet (debug verbose text) = debug false text :=
  quiet_printed verbose ⟨.debug, text⟩

theorem quiet_info (text : String) : Log.quiet [info text] = [info text] := rfl

namespace Output

@[simp] theorem quiet_append (first second : Output) :
    (first ++ second).quiet = first.quiet ++ second.quiet := by
  simp only [quiet, main_append, loop_append, Log.quiet_append]
  rfl

@[simp] theorem quiet_front (log : Log) : (front log).quiet = front log.quiet := rfl

end Output

end Console

namespace Auth

/-- An answer without the debug messages. -/
def Answer.quiet {τ : Type} (answer : Answer τ) : Answer τ :=
  { answer with log := answer.log.quiet }

theorem Gate.quiet_answer (ticket verbose : Bool) (gate : Gate) (challenge : Challenge) :
    (gate.answer ticket verbose challenge).quiet = gate.answer ticket false challenge := by
  simp only [answer]
  split
  · cases gate.attempt with
    | asked => rfl
    | unset => simp only [Answer.quiet, Console.quiet_debug_eq]
  · split
    · simp only [Answer.quiet, Console.quiet_debug_eq]
    · rfl

end Auth

namespace Mounting

open Auth (Answer Challenge Gate Reply)
open Console (Log Output)

/-- A party as it is in verbose and in quiet runs: it says and does the same but for the debug
messages. -/
structure DiscreetParty (τ : Type) where
  inRun : (verbose : Bool) → Party τ
  quiet_answer : ∀ (verbose : Bool) (state : τ) (request : Nat) (challenge : Challenge),
    ((inRun verbose).answer state request challenge).quiet =
      (inRun false).answer state request challenge
  complete_eq : ∀ verbose : Bool, (inRun verbose).complete = (inRun false).complete

theorem Docket.quiet_challenge (ticket verbose : Bool) (docket : Docket) (number : Nat)
    (challenge : Challenge) :
    (docket.challenge ticket verbose number challenge).quiet =
      docket.challenge ticket false number challenge := by
  unfold Docket.challenge
  cases docket.requests[number]? with
  | none => rfl
  | some request =>
      dsimp only
      rw [← Gate.quiet_answer ticket verbose]
      rfl

/-- The docket, whose gates answer. -/
def Docket.discreet (ticket : Bool) : DiscreetParty Docket where
  inRun := party ticket
  quiet_answer := quiet_challenge ticket
  complete_eq := fun _ => rfl

/-- A handler with prepared replies and a gate. -/
def rehearsedParty (ticket : Bool) : DiscreetParty (List Reply × Gate) where
  inRun := fun verbose => .ofHandler (Gate.rehearsed ticket verbose)
  quiet_answer := by
    rintro verbose ⟨replies, gate⟩ _ challenge
    cases replies with
    | cons reply replies => rfl
    | nil =>
        simp only [Party.ofHandler, Gate.rehearsed]
        rw [← Gate.quiet_answer ticket verbose]
        rfl
  complete_eq := fun _ => rfl

namespace Conduct

variable {α τ : Type}

/-- A performance without the debug messages. -/
def Performance.quiet (performance : Performance τ α) : Performance τ α :=
  { performance with log := performance.log.quiet }

/-- A conduct is played in the same way in a verbose and in a quiet run. -/
theorem quiet_run (party : DiscreetParty τ) (verbose : Bool) (conduct : Conduct α) (state : τ) :
    (conduct.run verbose (party.inRun verbose) state).quiet =
      conduct.run false (party.inRun false) state := by
  induction conduct generalizing state with
  | finish value => rfl
  | say message next ih =>
      rw [run, run, ← ih]
      simp only [Performance.quiet, Log.quiet_append, Console.quiet_printed]
  | ask request challenge next ih =>
      rw [run, run, ← party.quiet_answer verbose]
      dsimp only [Answer.quiet]
      rw [← ih]
      simp only [Performance.quiet, Log.quiet_append]
  | complete request status next ih =>
      rw [run, run, ← party.complete_eq verbose]
      exact ih _

end Conduct

/-- What a settlement comes to, without the debug messages. -/
def Settlement.Drained.quiet (drained : Settlement.Drained) : Settlement.Drained :=
  { drained with log := drained.log.quiet }

namespace Settlement

theorem quiet_report (verbose : Bool) (completion : Completion) :
    Log.quiet (report verbose completion) = report false completion := by
  unfold report
  cases completion.status with
  | done => exact Console.quiet_debug_eq ..
  | failed failure => rfl
  | stray value => rfl

theorem quiet_drain (verbose : Bool) (settlement : Settlement) (channel : List Completion) :
    (settlement.drain verbose channel).quiet = settlement.drain false channel := by
  induction channel generalizing settlement with
  | nil => rfl
  | cons completion rest ih =>
      rw [drain, drain, record, record]
      cases settlement.settled with
      | true => rfl
      | false =>
          simp only [Bool.false_eq_true, if_false]
          rw [← ih]
          simp only [Drained.quiet, Log.quiet_append, quiet_report]

end Settlement

/-- The verdict on a run is told to everybody. -/
theorem Verdict.quiet_report (failures : Failures) :
    Log.quiet (report failures) = report failures := by
  apply List.filter_eq_self.mpr
  intro message hmem
  rw [report, List.mem_append, List.mem_map] at hmem
  rcases hmem with ⟨failed, -, rfl⟩ | hnotice
  · rfl
  · split at hnotice
    · cases hnotice
    · rw [List.mem_singleton.mp hnotice]
      rfl

theorem Settlement.Drained.quiet_judge (drained : Settlement.Drained) :
    Log.quiet drained.judge.2 = drained.judge.2 := by
  rw [judge]
  split
  · rfl
  · dsimp only
    split <;> exact Verdict.quiet_report _

section Provider

variable {σ : Type}

/-- What dispatching comes to, without the debug messages. -/
def Dispatched.quiet (dispatched : Dispatched σ) : Dispatched σ :=
  { dispatched with output := dispatched.output.quiet }

/-- What mounting comes to, without the debug messages. -/
def Mounted.quiet (mounted : Mounted σ) : Mounted σ :=
  { mounted with output := mounted.output.quiet }

namespace Provider

variable (provider : Provider σ) (ticket verbose : Bool)

theorem quiet_printing (log : Log) :
    (provider.printing log).quiet = provider.printing log.quiet := by
  rw [printing, printing]
  split <;> rfl

theorem quiet_request (state : σ) (docket : Docket) (entry : Entry) :
    (provider.request ticket verbose state docket entry).quiet =
      provider.request ticket false state docket entry := by
  have hplayed := (provider.start state docket.requests.length (Request.fresh entry)).quiet_run
    (Docket.discreet ticket) verbose (docket.openRequest entry)
  simp only [Docket.discreet] at hplayed
  rw [request, request, ← hplayed]
  simp only [Dispatched.quiet, quiet_printing]
  rfl

theorem quiet_dispatch (state : σ) (docket : Docket) (entries : List Entry) :
    (provider.dispatch ticket verbose state docket entries).quiet =
      provider.dispatch ticket false state docket entries := by
  induction entries generalizing state docket with
  | nil => rfl
  | cons entry rest ih =>
      rw [dispatch, dispatch, ← quiet_request provider ticket verbose]
      let first := provider.request ticket verbose state docket entry
      cases hrefusal : first.refusal with
      | some refusal =>
          simp only [first, Dispatched.quiet, hrefusal, Output.quiet_append, Output.quiet_front,
            Console.quiet_debug_eq]
      | none =>
          simp only [first, Dispatched.quiet, hrefusal]
          rw [← ih]
          simp only [Dispatched.quiet, Output.quiet_append, Output.quiet_front,
            Console.quiet_debug_eq]

/-- Mounting entries comes to the same in a verbose and in a quiet run. -/
theorem quiet_mount (state : σ) (entries : List Entry) :
    (provider.mount ticket verbose state entries).quiet =
      provider.mount ticket false state entries := by
  cases entries with
  | nil => rfl
  | cons entry rest =>
      have hdispatched := provider.quiet_dispatch ticket verbose state {} (entry :: rest)
      rw [mount, mount, ← hdispatched]
      let dispatched := provider.dispatch ticket verbose state {} (entry :: rest)
      cases hrefusal : dispatched.refusal with
      | some refusal => simp only [dispatched, Mounted.quiet, Dispatched.quiet, hrefusal]
      | none =>
          have hsettled := (provider.settle dispatched.state).quiet_run (Docket.discreet ticket)
            verbose dispatched.docket
          simp only [Docket.discreet] at hsettled
          simp only [dispatched, Dispatched.quiet, hrefusal]
          rw [← hsettled, ← Settlement.quiet_drain verbose]
          simp only [Mounted.quiet, Output.quiet_append, Output.quiet_front, quiet_printing,
            Log.quiet_append, Settlement.Drained.quiet_judge]
          rfl

end Provider

end Provider

namespace Run

/-- What happens at a step of a run does not depend on whether the run is verbose. -/
theorem step?_quiet (verbose : Bool) (run : Run) (action : Action) :
    run.step? verbose action = run.step? false action := by
  cases action with
  | dispatch => rfl
  | challenge number challenge =>
      rw [step?, step?, ← Docket.quiet_challenge run.ticket verbose]
      rfl
  | complete number status => rfl
  | ticket named => rfl
  | track =>
      unfold step? Settlement.record
      cases run.settlement.settled <;> rfl

theorem steps?_quiet (verbose : Bool) (run : Run) (actions : List Action) :
    run.steps? verbose actions = run.steps? false actions := by
  induction actions generalizing run with
  | nil => rfl
  | cons action rest ih => simp only [steps?, step?_quiet verbose, ih]

end Run

end Mounting

namespace InProcess.Loop

open Mounting (Conduct Docket Run Started)

theorem act_quiet (verbose : Bool) (loop : Loop) (conduct : Conduct (Started State)) :
    loop.act verbose conduct = loop.act false conduct := by
  cases conduct with
  | finish started => rfl
  | say message next => rfl
  | ask number challenge next =>
      rw [act, act, ← Docket.quiet_challenge loop.run.ticket verbose]
      rfl
  | complete number status next => rfl

/-- Neither of the two threads does anything else in a verbose run. -/
theorem step?_quiet (verbose : Bool) (loop : Loop) (action : Action) :
    loop.step? verbose action = loop.step? false action := by
  cases action with
  | dispatch => rfl
  | turn => simp only [step?, act_quiet verbose]
  | track => rw [step?, step?, Run.step?_quiet verbose]

theorem steps?_quiet (verbose : Bool) (loop : Loop) (actions : List Action) :
    loop.steps? verbose actions = loop.steps? false actions := by
  induction actions generalizing loop with
  | nil => rfl
  | cons action rest ih => simp only [steps?, step?_quiet verbose, ih]

end InProcess.Loop

end SessionMounts
