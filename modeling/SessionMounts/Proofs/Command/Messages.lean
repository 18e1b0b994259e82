import SessionMounts.Mounting.Provider
import SessionMounts.Proofs.Mounting.Settling

/-!
What is said of the ends of operations. A quiet run passes over an operation that is done; every other end
is told when its completion is taken, and a failure once more when the run is judged. So a run is silent
exactly if all operations are done (`only_done_passes_in_silence`). Whatever an operation reports, the
completions after it are taken too.
-/

namespace SessionMounts

namespace Console

theorem Message.render_ne_empty (message : Message) : message.render ≠ "" := by
  rw [Message.render]
  intro h
  obtain ⟨-, hend⟩ := String.append_eq_empty_iff.mp h
  exact absurd hend (by decide)

/-- Nothing is printed exactly if there is no message. -/
theorem Log.render_eq_empty_iff (log : Log) : log.render = "" ↔ log = [] := by
  cases log with
  | nil => exact iff_of_true rfl rfl
  | cons message rest =>
      apply iff_of_false
      · rw [Log.render, List.map_cons, String.join_cons, String.append_eq_empty_iff]
        exact fun h => message.render_ne_empty h.1
      · exact List.cons_ne_nil message rest

end Console

namespace Mounting

open Console (Log Message)

/-- What a quiet run is told of a completion when it is taken. -/
def Completion.told? (completion : Completion) : Option Message :=
  match completion.status with
  | .done => none
  | .failed _ => some (Console.warning ("Failed when mounting " ++ completion.location))
  | .stray value => some (Console.error ("Unexpected return status: " ++ value.shown))

theorem Completion.told?_eq_none_iff (completion : Completion) :
    completion.told? = none ↔ completion.status = .done := by
  rw [told?]
  cases completion.status <;> simp

/-- What is told of a failure when the run is judged. -/
def Failures.account (failed : String × Failure) : Message :=
  Console.warning ("Mount process for " ++ failed.1 ++ " failed: " ++ failed.2.message ++
    " (" ++ failed.2.kind ++ ")")

/-- There are failures, and each says that its location was mounted before. -/
def Failures.MountedBefore (failures : Failures) : Prop :=
  failures ≠ [] ∧ ∀ failed ∈ failures, failed.2.kind = "already-mounted"

instance (failures : Failures) : Decidable failures.MountedBefore :=
  inferInstanceAs (Decidable (failures ≠ [] ∧ ∀ failed ∈ failures,
    failed.2.kind = "already-mounted"))

theorem Failures.all_isAlreadyMounted_iff (failures : Failures) :
    (failures.all fun failed => failed.2.isAlreadyMounted) = true ↔
      ∀ failed ∈ failures, failed.2.kind = "already-mounted" := by
  simp only [List.all_eq_true, Failure.isAlreadyMounted, beq_iff_eq, Failure.alreadyMounted]

theorem Failures.mountedBefore_iff (failures : Failures) :
    failures.MountedBefore ↔
      (failures.isEmpty || !failures.all fun failed => failed.2.isAlreadyMounted) = false := by
  rw [MountedBefore, ← all_isAlreadyMounted_iff]
  simp

namespace Settlement

theorem report_false (completion : Completion) :
    report false completion = completion.told?.toList := by
  rw [report, Completion.told?]
  cases completion.status <;> rfl

theorem flatMap_report_false (completions : List Completion) :
    completions.flatMap (report false) = completions.filterMap Completion.told? := by
  induction completions with
  | nil => rfl
  | cons completion rest ih =>
      rw [List.flatMap_cons, report_false, ih, List.filterMap_cons]
      cases completion.told? <;> rfl

/-- What a quiet run that waits for several completions has taken, and what it has been told, when the first
of them have come. -/
theorem drain_take (completions : List Completion) (count : Nat) :
    drain false ⟨completions.length, []⟩ (completions.take count) =
      { settlement := ⟨(completions.drop count).length, Mounting.failures (completions.take count)⟩
        taken := completions.take count
        unread := []
        log := (completions.take count).filterMap Completion.told? } := by
  have hfew : (completions.take count).length ≤ completions.length := List.length_take_le' ..
  have hmissing : completions.length - (completions.take count).length =
      (completions.drop count).length := by
    rw [List.length_take, List.length_drop]
    omega
  rw [drain_of_outstanding false completions.length rfl, List.take_of_length_le hfew,
    List.drop_of_length_le hfew, flatMap_report_false, hmissing, List.nil_append]

end Settlement

theorem Verdict.report_eq (failures : Failures) :
    report failures =
      failures.map Failures.account ++
        if failures.MountedBefore then [Console.notice "Every failed location was already mounted"]
        else [] := by
  have haccount : (fun failed : String × Failure =>
      Console.warning ("Mount process for " ++ failed.1 ++ " failed: " ++ failed.2.text)) =
        Failures.account := by
    funext failed
    simp only [Failures.account, Failure.text, String.append_assoc]
  rw [report, haccount]
  apply congrArg (failures.map Failures.account ++ ·)
  by_cases h : failures.MountedBefore
  · rw [if_pos h, (Failures.mountedBefore_iff failures).mp h]
    rfl
  · rw [if_neg h]
    have hnot := mt (Failures.mountedBefore_iff failures).mpr h
    rw [Bool.not_eq_false] at hnot
    rw [hnot]
    rfl

/-- How a run ends for which nothing is outstanding, and what is told at the end. -/
theorem Settlement.Drained.judge_of_settled {drained : Settlement.Drained}
    (h : drained.settlement.outstanding = 0) :
    drained.judge =
      (if ∀ failed ∈ drained.settlement.failures, failed.2.kind = "already-mounted" then .mounted
        else .failed drained.settlement.failures,
        Verdict.report drained.settlement.failures) := by
  have hwaiting : drained.waiting = false := by
    rw [waiting, settled, h]
    rfl
  have hall := Failures.all_isAlreadyMounted_iff drained.settlement.failures
  rw [judge, hwaiting]
  by_cases hbefore : ∀ failed ∈ drained.settlement.failures, failed.2.kind = "already-mounted"
  · simp only [Verdict.ofFailures, hall.mpr hbefore, if_pos hbefore, if_true, Bool.false_eq_true,
      if_false]
  · simp only [Verdict.ofFailures, mt hall.mp hbefore, if_neg hbefore, Bool.false_eq_true, if_false]

end Mounting

namespace Command

open Console (Log)
open Mounting (Completion Ending Failures Settlement)

/-- Only an operation that is done passes in silence. A quiet run that waits for the completions that it gets
takes all of them, whatever their statuses, and comes to its verdict; no status puts an end to it before,
for when only some have come, it has taken and told of all these and waits for as many as are
missing. It prints nothing exactly if every operation is done. Otherwise it tells of
every other end in the order of arrival, a failure by a warning that names the location, anything
else by an error; then of each failure again, in the same order, with its location, its message and its kind;
and in the end, exactly if there are failures and each says that its location was mounted before, that
this is so. -/
theorem only_done_passes_in_silence (completions : List Completion) :
    let drained := Settlement.drain false ⟨completions.length, []⟩ completions
    let judged := drained.judge
    let log : Log := drained.log ++ judged.2
    let failed : Failures := completions.filterMap fun completion =>
      match completion.status with
      | .failed failure => some (completion.location, failure)
      | _ => none
    (log.render = "" ↔ ∀ completion ∈ completions, completion.status = .done) ∧
    log = completions.filterMap Completion.told? ++ failed.map Failures.account ++
      (if failed.MountedBefore then [Console.notice "Every failed location was already mounted"]
        else []) ∧
    drained.taken = completions ∧ drained.unread = [] ∧ drained.settlement = ⟨0, failed⟩ ∧
    judged.1 = (if ∀ pair ∈ failed, pair.2.kind = "already-mounted" then Ending.mounted
      else Ending.failed failed) ∧
    ∀ count,
      let meanwhile := Settlement.drain false ⟨completions.length, []⟩ (completions.take count)
      meanwhile.taken = completions.take count ∧ meanwhile.unread = [] ∧
      meanwhile.settlement.outstanding = (completions.drop count).length ∧
      meanwhile.log = (completions.take count).filterMap Completion.told? := by
  intro drained judged log failed
  have hfailed : failed = Mounting.failures completions := by
    apply congrArg fun failing => completions.filterMap failing
    funext completion
    cases completion.status <;> rfl
  have hdrained : drained =
      ⟨⟨0, failed⟩, completions, [], completions.filterMap Completion.told?⟩ := by
    have hall := Settlement.drain_take completions completions.length
    rw [List.take_length, List.drop_length, ← hfailed] at hall
    exact hall
  have hzero : drained.settlement.outstanding = 0 := by rw [hdrained]
  have hjudged : judged = _ := Settlement.Drained.judge_of_settled hzero
  have hlog : log = completions.filterMap Completion.told? ++ failed.map Failures.account ++
      (if failed.MountedBefore then [Console.notice "Every failed location was already mounted"]
        else []) := by
    simp only [log, hjudged, hdrained, Mounting.Verdict.report_eq, List.append_assoc]
  have hsilent : completions.filterMap Completion.told? = [] ↔
      ∀ completion ∈ completions, completion.status = .done := by
    simp only [List.filterMap_eq_nil_iff, Completion.told?_eq_none_iff]
  refine ⟨?_, hlog, by rw [hdrained], by rw [hdrained], by rw [hdrained], ?_, ?_⟩
  · rw [Console.Log.render_eq_empty_iff, hlog, ← hsilent, List.append_assoc,
      List.append_eq_nil_iff, and_iff_left_iff_imp]
    intro hnone
    have hnobody : failed = [] := by
      apply List.filterMap_eq_nil_iff.mpr
      intro completion hmem
      rw [hsilent.mp hnone completion hmem]
    rw [hnobody]
    rfl
  · rw [hjudged, hdrained]
  · intro count meanwhile
    have hmeanwhile : meanwhile = _ := Settlement.drain_take completions count
    rw [hmeanwhile]
    exact ⟨rfl, rfl, rfl, rfl⟩

example :
    let drained := Settlement.drain false ⟨3, []⟩ [⟨"smb://h/a", .stray .asked⟩, ⟨"smb://h/b", .done⟩,
      ⟨"smb://h/c", .failed ⟨"already-mounted", "mounted"⟩⟩]
    drained.log ++ drained.judge.2 =
      [Console.error "Unexpected return status: <MountStatus.ASKED: 'asked'>",
        Console.warning "Failed when mounting smb://h/c",
        Console.warning "Mount process for smb://h/c failed: mounted (already-mounted)",
        Console.notice "Every failed location was already mounted"] := by
  decide

end Command

end SessionMounts
