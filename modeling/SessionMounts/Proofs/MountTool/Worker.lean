import SessionMounts.MountTool.Provider
import SessionMounts.Proofs.MountTool.Garbled
import SessionMounts.Proofs.Mounting.Reports

/-!
The workers that mount by a tool, and whether they report. An interview ends as its dialogue does if
every challenge is answered, and with an aborted authentication otherwise, so a worker meets
undecodable output only if all its challenges have been answered. That is the one case in which it
reports nothing; and since nobody else reports the end of its operation, the mounting of the entries then
waits for ever (`worker_reports_unless_output_garbled`).
-/

namespace SessionMounts

open Auth (Challenge Reply)

/-- A proper end of an operation. -/
def Mounting.Status.Proper (status : Mounting.Status) : Prop :=
  status = .done ∨ ∃ failure, status = .failed failure

namespace MountTool

open Mounting

/-- Every challenge was answered by going on. -/
def AllHandled (exchanges : List (Challenge × Reply)) : Prop :=
  ∀ exchange ∈ exchanges, exchange.2 = .handled

instance (exchanges : List (Challenge × Reply)) : Decidable (AllHandled exchanges) :=
  inferInstanceAs (Decidable (∀ exchange ∈ exchanges, exchange.2 = .handled))

@[simp] theorem allHandled_cons_iff {challenge : Challenge} {reply : Reply}
    {exchanges : List (Challenge × Reply)} :
    AllHandled ((challenge, reply) :: exchanges) ↔ reply = .handled ∧ AllHandled exchanges :=
  List.forall_mem_cons

theorem statusOf_proper (output : List Char) (status : ExitStatus) :
    (statusOf output status).Proper := by
  unfold statusOf
  split
  · exact .inl rfl
  · exact .inr ⟨_, rfl⟩

namespace Child

/-- What a child comes to, when these were the exchanges with its worker. -/
def outcome (child : Child) (location : String) (exchanges : List (Challenge × Reply)) :
    Except Trouble Status :=
  match child with
  | .failing cause => .error cause.trouble
  | .running reads status =>
    if AllHandled exchanges then
      (Dialogue.ofOutput reads).ending.map fun output => statusOf output status
    else .ok (.failed (authenticationAborted location))

/-- A child prints what cannot be decoded, and no challenge keeps its worker from reading it. -/
def Fatal (child : Child) (exchanges : List (Challenge × Reply)) : Prop :=
  (∃ reads status, child = .running reads status ∧ Garbled reads) ∧ AllHandled exchanges

variable {child : Child} {location : String} {exchanges : List (Challenge × Reply)}

theorem outcome_undecodable_iff :
    (∃ fault, child.outcome location exchanges = .error (.undecodable fault)) ↔
      child.Fatal exchanges := by
  cases child with
  | failing cause =>
      refine iff_of_false ?_ ?_
      · rintro ⟨fault, h⟩
        cases cause <;> cases h
      · rintro ⟨⟨reads, status, h, -⟩, -⟩
        cases h
  | running reads status =>
      have hgarbled := Dialogue.exists_undecodable_iff .nothing [] reads
      rw [outcome, Fatal]
      by_cases hall : AllHandled exchanges
      · rw [if_pos hall]
        constructor
        · rintro ⟨fault, h⟩
          refine ⟨⟨reads, status, rfl, hgarbled.mp ⟨fault, ?_⟩⟩, hall⟩
          cases hending : (Dialogue.ofOutput reads).ending with
          | ok output => rw [hending] at h; cases h
          | error trouble => rw [hending] at h; cases h; exact hending
        · rintro ⟨⟨_, _, hsame, h⟩, -⟩
          cases hsame
          obtain ⟨fault, hending⟩ := hgarbled.mpr h
          exact ⟨fault, by rw [Dialogue.ofOutput, hending]; rfl⟩
      · rw [if_neg hall]
        refine iff_of_false ?_ fun h => hall h.2
        rintro ⟨fault, h⟩
        cases h

theorem proper_of_outcome {status : Status} (h : child.outcome location exchanges = .ok status) :
    status.Proper := by
  unfold outcome at h
  split at h
  · cases h
  · rename_i reads exit
    split at h
    · cases hending : (Dialogue.ofOutput reads).ending with
      | ok output =>
          rw [hending] at h
          cases h
          exact statusOf_proper output exit
      | error trouble =>
          rw [hending] at h
          cases h
    · cases h
      exact .inr ⟨_, rfl⟩

end Child

section Interview

variable {τ : Type} (verbose : Bool) (party : Party τ) (request : Nat) (location : String)
  (status : ExitStatus)

/-- An interview ends as its dialogue does, unless a challenge is not answered. -/
theorem result_interview (dialogue : Dialogue) (accepted : Bool) (transcript : Transcript)
    (state : τ) :
    let played := (interview request location status dialogue accepted transcript).run
      verbose party state
    played.value.result =
      if AllHandled played.exchanges then dialogue.ending.map fun output => statusOf output status
      else .ok (.failed (authenticationAborted location)) := by
  induction dialogue generalizing accepted transcript state with
  | ended before => rfl
  | broken trouble unread => rfl
  | prompt kind before shown unread next ih =>
      cases accepted with
      | true => exact ih _ _ state
      | false =>
          rw [interview, Conduct.run]
          by_cases hreply : (party.answer state request (challengeAt before)).reply = .handled
          · simp only [hreply, if_true, allHandled_cons_iff, true_and]
            exact ih _ _ _
          · simp only [Conduct.run, allHandled_cons_iff, hreply, false_and, if_false]

theorem reports_interview (dialogue : Dialogue) (accepted : Bool) (transcript : Transcript)
    (state : τ) :
    (interview request location status dialogue accepted transcript).reports party state = [] := by
  induction dialogue generalizing accepted transcript state with
  | ended before => rfl
  | broken trouble unread => rfl
  | prompt kind before shown unread next ih =>
      cases accepted with
      | true => exact ih _ _ state
      | false =>
          rw [interview, Conduct.reports]
          split
          · exact ih _ _ _
          · rfl

end Interview

section Worker

variable {τ : Type} (verbose : Bool) (party : Party τ) (command : String) (state : State)
  (heard : τ)

/-- The child that is started for a location. -/
def State.child (state : State) (command location : String) : Child :=
  (state.launch command location).1

theorem deaths_launch (location : String) :
    (state.launch command location).2.deaths = state.deaths := by
  unfold State.launch
  cases state.children.take? location <;> rfl

/-- Mounting when there is a child. -/
theorem run_mount_of_running {location : String} {launched : State} {reads : List Read}
    {status : ExitStatus}
    (h : state.launch command location = (.running reads status, launched))
    (worker : Option String) (request : Nat) (anonymous : Bool) :
    (mount command worker state request location anonymous).run verbose party heard =
      let played := (interview request location status (.ofOutput reads) false {}).run
        verbose party heard
      { value := (played.value.result, launched.note
          ⟨words command location anonymous, worker, some played.value.transcript⟩)
        state := played.state
        exchanges := played.exchanges
        log := (announce anonymous location).flatMap (Console.printed verbose) ++ played.log } := by
  rw [mount, Conduct.run_sayAll, h]
  simp only [Conduct.run_bind, Conduct.run, List.append_nil]

/-- What mounting comes to: the trouble of a tool that cannot be started, or the result of the
interview with its child. No worker dies of it yet. -/
theorem value_mount (worker : Option String) (request : Nat) (location : String)
    (anonymous : Bool) :
    let played := (mount command worker state request location anonymous).run verbose party heard
    played.value.1 = (state.child command location).outcome location played.exchanges ∧
      played.value.2.deaths = state.deaths := by
  have hdeaths := deaths_launch command state location
  rw [State.child]
  rcases hlaunch : state.launch command location with ⟨child, launched⟩
  rw [hlaunch] at hdeaths
  cases child with
  | failing cause =>
      rw [mount, Conduct.run_sayAll, hlaunch]
      exact ⟨rfl, hdeaths⟩
  | running reads status =>
      rw [run_mount_of_running verbose party command state heard hlaunch]
      exact ⟨result_interview verbose party request location status _ _ _ heard, hdeaths⟩

theorem reports_mount (worker : Option String) (request : Nat) (location : String)
    (anonymous : Bool) :
    (mount command worker state request location anonymous).reports party heard = [] := by
  unfold mount
  rw [Conduct.reports_sayAll]
  rcases state.launch command location with ⟨child, launched⟩
  cases child with
  | failing cause => rfl
  | running reads status =>
      simp only [Conduct.reports_bind false, reports_interview]
      rfl

/-- Undecodable output ends the worker without a report; anything else is reported, once. -/
theorem report_result (request : Nat) {result : Except Trouble Status}
    (hproper : ∀ status, result = .ok status → status.Proper) :
    let reporting := report request result state
    let played := reporting.run verbose party heard
    played.exchanges = [] ∧ played.value.refusal = none ∧
      ((∃ fault, result = .error (.undecodable fault) ∧ reporting.reports party heard = [] ∧
          played.value.state.deaths = state.deaths ++ [.undecodable fault]) ∨
        ((∀ fault, result ≠ .error (.undecodable fault)) ∧
          (∃ status : Status, status.Proper ∧
            reporting.reports party heard = [(request, status)]) ∧
          played.value.state.deaths = state.deaths)) := by
  rcases result with trouble | status
  · cases trouble with
    | undecodable fault => exact ⟨rfl, rfl, .inl ⟨fault, rfl, rfl, rfl⟩⟩
    | unavailable text =>
        refine ⟨rfl, rfl, .inr ⟨?_, ⟨_, .inr ⟨_, rfl⟩, rfl⟩, rfl⟩⟩
        rintro fault ⟨⟩
    | system error =>
        refine ⟨rfl, rfl, .inr ⟨?_, ⟨_, .inr ⟨_, rfl⟩, rfl⟩, rfl⟩⟩
        rintro fault ⟨⟩
  · refine ⟨rfl, rfl, .inr ⟨?_, ⟨status, hproper status rfl, rfl⟩, rfl⟩⟩
    rintro fault ⟨⟩

theorem child_of_workers (workers : Nat) (location : String) :
    { state with workers := workers }.child command location = state.child command location := by
  unfold State.child State.launch
  cases state.children.take? location <;> rfl

/-- What the worker of a request does: it dies without a report if its child is fatal, and otherwise
it reports once. -/
theorem serve_cases (number : Nat) (request : Request) :
    let served := serve command state number request
    let played := served.run verbose party heard
    played.value.refusal = none ∧
      (((state.child command request.entry.location).Fatal played.exchanges ∧
          served.reports party heard = [] ∧
          ∃ fault, played.value.state.deaths = state.deaths ++ [.undecodable fault]) ∨
        (¬(state.child command request.entry.location).Fatal played.exchanges ∧
          (∃ status : Status, status.Proper ∧ served.reports party heard = [(number, status)]) ∧
          played.value.state.deaths = state.deaths)) := by
  let counted := { state with workers := state.workers + 1 }
  let mounting := mount command (some state.nextWorker) counted number request.entry.location
    request.gate.anonymous
  let mounted := mounting.run verbose party heard
  obtain ⟨hresult, hdeaths⟩ := value_mount verbose party command counted heard
    (some state.nextWorker) number request.entry.location request.gate.anonymous
  rw [child_of_workers] at hresult
  have hquiet := reports_mount party command counted heard (some state.nextWorker) number
    request.entry.location request.gate.anonymous
  have hproper : ∀ status, mounted.value.1 = .ok status → status.Proper := by
    intro status h
    exact Child.proper_of_outcome (hresult.symm.trans h)
  obtain ⟨hexchanges, hrefusal, hreport⟩ :=
    report_result verbose party mounted.value.2 mounted.state number hproper
  have hfatal : (∃ fault, mounted.value.1 = .error (.undecodable fault)) ↔
      (state.child command request.entry.location).Fatal mounted.exchanges := by
    rw [hresult]
    exact Child.outcome_undecodable_iff
  have hserved : (serve command state number request).reports party heard =
      (report number mounted.value.1 mounted.value.2).reports party mounted.state := by
    rw [serve, Conduct.reports_bind verbose, hquiet]
    rfl
  have hplayed : (serve command state number request).run verbose party heard =
      let reported := (report number mounted.value.1 mounted.value.2).run verbose party mounted.state
      { reported with
        exchanges := mounted.exchanges ++ reported.exchanges
        log := mounted.log ++ reported.log } := by
    rw [serve, Conduct.run_bind]
  intro served played
  simp only [served, played, hserved, hplayed, hexchanges, List.append_nil, ← hfatal]
  refine ⟨hrefusal, ?_⟩
  rcases hreport with ⟨fault, hundecodable, hnone, hdied⟩ | ⟨hother, hone, halive⟩
  · exact .inl ⟨⟨fault, hundecodable⟩, hnone, fault, hdied.trans (by rw [hdeaths])⟩
  · exact .inr ⟨fun ⟨fault, h⟩ => hother fault h, hone, halive.trans hdeaths⟩

end Worker

section Mounting

variable (command : String) (ticket verbose : Bool)

theorem request_worker (state : State) (docket : Docket) (entry : Entry) :
    let first := (provider command).request ticket verbose state docket entry
    let opened := docket.openRequest entry
    let heard := opened.heard (((provider command).start state docket.requests.length
      (Request.fresh entry)).reports (Docket.party ticket verbose) opened)
    first.refusal = none ∧ first.docket.requests.length = docket.requests.length + 1 ∧
      ((heard = [] ∧ first.state.deaths.length = state.deaths.length + 1) ∨
        (∃ status, heard = [(docket.requests.length, status)]) ∧
          first.state.deaths = state.deaths) := by
  intro first opened heard
  have hopened : opened.requests.length = docket.requests.length + 1 := List.length_append
  obtain ⟨hrefusal, hcases⟩ := serve_cases verbose (Docket.party ticket verbose) command state
    opened docket.requests.length (Request.fresh entry)
  refine ⟨hrefusal, (Conduct.length_run verbose ticket _ opened).trans hopened, ?_⟩
  rcases hcases with ⟨-, hnone, fault, hdied⟩ | ⟨-, ⟨status, -, hone⟩, halive⟩
  · refine .inl ⟨congrArg opened.heard hnone, ?_⟩
    exact (congrArg List.length hdied).trans List.length_append
  · refine .inr ⟨⟨status, (congrArg opened.heard hone).trans ?_⟩, halive⟩
    exact List.filter_cons_of_pos (decide_eq_true (by omega))

/-- The workers that report and those that die are together as many as the entries; no request is
refused, and each report is about another one. -/
theorem dispatch_workers (entries : List Entry) (state : State) (docket : Docket) :
    let dispatched := (provider command).dispatch ticket verbose state docket entries
    let reports := (provider command).reportsOfDispatch ticket verbose state docket entries
    dispatched.refusal = none ∧
      (reports.map Prod.fst).Sublist (List.range' docket.requests.length entries.length) ∧
      dispatched.state.deaths.length + reports.length = state.deaths.length + entries.length := by
  induction entries generalizing state docket with
  | nil => exact ⟨rfl, .refl _, rfl⟩
  | cons entry rest ih =>
      obtain ⟨hrefusal, hlength, hcases⟩ := request_worker command ticket verbose state docket entry
      rw [Provider.dispatch, Provider.reportsOfDispatch]
      generalize (provider command).request ticket verbose state docket entry = first at *
      obtain ⟨haccepted, hnumbers, hcount⟩ := ih first.state first.docket
      rw [hlength] at hnumbers
      simp only [hrefusal, List.map_append, List.length_append, List.length_cons]
      refine ⟨haccepted, ?_⟩
      rw [List.range'_succ]
      rcases hcases with ⟨hnone, hdied⟩ | ⟨⟨status, hone⟩, halive⟩
      · rw [hnone]
        exact ⟨hnumbers.cons _, by simp only [List.length_nil]; omega⟩
      · rw [hone]
        rw [halive] at hcount
        exact ⟨hnumbers.cons_cons _, by simp only [List.length_singleton]; omega⟩

theorem reports_provider (state : State) (entries : List Entry) :
    (provider command).reports ticket verbose state entries =
      (provider command).reportsOfDispatch ticket verbose state {} entries := by
  rw [Provider.reports, (dispatch_workers command ticket verbose entries state {}).1]
  exact List.append_nil _

/-- No request is refused, and the mounting of entries waits for ever exactly if a worker dies. -/
theorem mount_workers (state : State) (entries : List Entry) :
    let mounted := (provider command).mount ticket verbose state entries
    (mounted.ending = .waiting ↔ state.deaths.length < mounted.state.deaths.length) ∧
      ∀ refusal, mounted.ending ≠ .refused refusal := by
  cases entries with
  | nil =>
      refine ⟨iff_of_false ?_ (Nat.lt_irrefl _), ?_⟩
      · rintro ⟨⟩
      · rintro refusal ⟨⟩
  | cons entry rest =>
      have hne : entry :: rest ≠ [] := List.cons_ne_nil entry rest
      obtain ⟨haccepted, hnumbers, hcount⟩ :=
        dispatch_workers command ticket verbose (entry :: rest) state {}
      rw [← reports_provider] at hnumbers hcount
      have honce := hnumbers.nodup List.nodup_range'
      obtain ⟨hstate, -, -, hending⟩ := (provider command).mount_of_accepted hne haccepted
      constructor
      · rw [(provider command).waiting_iff hne haccepted honce, hstate]
        change _ ↔ _ < ((provider command).dispatch ticket verbose state {}
          (entry :: rest)).state.deaths.length
        omega
      · intro refusal hrefused
        rw [hending, Settlement.ending] at hrefused
        split at hrefused
        · split at hrefused <;> cases hrefused
        · cases hrefused

end Mounting

/-- A worker reports the end of its operation, done or failed, exactly once, whatever its child does
and whoever answers the challenges, unless the child's output cannot be decoded and every challenge
is answered. Then it dies and reports nothing; and the mounting of entries waits for ever exactly if a
worker dies. -/
theorem worker_reports_unless_output_garbled (command : String) :
    (∀ (τ : Type) (party : Party τ) (verbose : Bool) (heard : τ) (state : State) (number : Nat)
        (request : Request),
      let served := serve command state number request
      let played := served.run verbose party heard
      let fatal := (state.child command request.entry.location).Fatal played.exchanges
      (fatal ∧ served.reports party heard = [] ∧
        ∃ fault, played.value.state.deaths = state.deaths ++ [.undecodable fault]) ∨
      (¬fatal ∧
        (∃ status : Status, status.Proper ∧ served.reports party heard = [(number, status)]) ∧
        played.value.state.deaths = state.deaths)) ∧
    ∀ (ticket verbose : Bool) (state : State) (entries : List Entry),
      let mounted := (provider command).mount ticket verbose state entries
      (mounted.ending = .waiting ↔ state.deaths.length < mounted.state.deaths.length) ∧
        ∀ refusal, mounted.ending ≠ .refused refusal := by
  refine ⟨?_, mount_workers command⟩
  intro τ party verbose heard state number request
  exact (serve_cases verbose party command state heard number request).2

/-- A child whose only output is a byte that begins no character. -/
def mute : State where
  children := [("smb://h/a", [.running [.bytes [0xFF]] (some 0)])]

theorem ofOutput_mute :
    Dialogue.ofOutput [.bytes [0xFF]] = .broken (.undecodable ⟨0, [0xFF], .invalidStart⟩) 0 := by
  rw [Dialogue.ofOutput, Dialogue.ofReads]
  rfl

theorem serve_mute :
    serve "gio" mute 0 (.fresh ⟨"smb://h/a", false⟩) = .finish
      { state :=
          { children := [("smb://h/a", [])]
            launches := [⟨["gio", "mount", "smb://h/a"], some "usermount-0", some {}⟩]
            workers := 1
            deaths := [.undecodable ⟨0, [0xFF], .invalidStart⟩] } } := by
  have hlaunch : ({ mute with workers := 1 }).launch "gio" "smb://h/a" =
      (.running [.bytes [0xFF]] (some 0),
        { mute with workers := 1, children := [("smb://h/a", [])] }) := rfl
  unfold serve mount
  simp only [Request.fresh, show mute.workers + 1 = 1 from rfl, hlaunch, ofOutput_mute, interview]
  rfl

/-- The worker of this child never reports, and the mounting of its location never ends. -/
theorem mute_child_is_never_reported :
    (serve "gio" mute 0 (.fresh ⟨"smb://h/a", false⟩)).reports (Docket.party false false)
        (Docket.openRequest {} ⟨"smb://h/a", false⟩) = [] ∧
      ((provider "gio").mount false false mute [⟨"smb://h/a", false⟩]).ending = .waiting := by
  constructor
  · rw [serve_mute]
    rfl
  · have hstart : (provider "gio").start mute ([] : List Request).length
        (.fresh ⟨"smb://h/a", false⟩) = _ := serve_mute
    simp only [Provider.mount, Provider.dispatch, Provider.request]
    rw [hstart]
    rfl

end MountTool

end SessionMounts
