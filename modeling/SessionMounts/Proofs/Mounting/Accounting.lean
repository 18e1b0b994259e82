import Mathlib.Data.List.Nodup
import Mathlib.Data.List.Perm.Basic
import SessionMounts.Mounting.Provider

/-!
The accounting of a mounting run. Whatever the provider does, and whenever it does it, every entry
is at one place: not yet dispatched, under way, on the channel, or taken. The ends reported so far
fix what is on the channel and what has been taken, and the settlement counts what is missing.
`Accounted` states this of one state, `Accounted.step` shows that no action upsets it, and
`outstanding_accounts_for_every_entry` draws the conclusions for every state that a run can reach.
-/

namespace SessionMounts.Mounting

/-! ### What the operations of a docket leave as it was

Putting a challenge changes only the gate and the exchanges of one request; the end of an operation
changes only the reports of its request and the channel. Neither adds a request or changes the entry of
one. -/

namespace Docket

open Auth (Challenge Reply Gate)

variable (ticket verbose : Bool) (docket : Docket) (number : Nat) (challenge : Challenge)

theorem map_requests_challenge {α : Type} {f : Request → α}
    (hf : ∀ (request : Request) (gate : Gate) (exchanges : List (Challenge × Reply)),
      f { request with gate := gate, exchanges := exchanges } = f request) :
    (docket.challenge ticket verbose number challenge).state.requests.map f =
      docket.requests.map f := by
  unfold Docket.challenge
  cases h : docket.requests[number]? with
  | none => rfl
  | some request =>
      obtain ⟨hlt, hget⟩ := List.getElem?_eq_some_iff.mp h
      simp only [List.map_set, hf]
      rw [← hget, ← List.getElem_map f (h := by simpa using hlt), List.set_getElem_self]

/-- Challenges change neither the entries of requests nor the ends reported. -/
@[simp] theorem entries_challenge :
    (docket.challenge ticket verbose number challenge).state.requests.map Request.entry =
      docket.requests.map Request.entry :=
  map_requests_challenge ticket verbose docket number challenge fun _ _ _ => rfl

@[simp] theorem reports_challenge :
    (docket.challenge ticket verbose number challenge).state.requests.map Request.reports =
      docket.requests.map Request.reports :=
  map_requests_challenge ticket verbose docket number challenge fun _ _ _ => rfl

@[simp] theorem length_challenge :
    (docket.challenge ticket verbose number challenge).state.requests.length =
      docket.requests.length := by
  have h := congrArg List.length (entries_challenge ticket verbose docket number challenge)
  rwa [List.length_map, List.length_map] at h

@[simp] theorem channel_challenge :
    (docket.challenge ticket verbose number challenge).state.channel = docket.channel := by
  unfold Docket.challenge
  cases docket.requests[number]? <;> rfl

/-- A challenge for a request that has not been made changes nothing. -/
theorem challenge_of_unmade (h : ¬number < docket.requests.length) :
    (docket.challenge ticket verbose number challenge).state = docket := by
  rw [Docket.challenge, List.getElem?_eq_none (by omega)]

variable {docket number} {request : Request} (status : Status)

theorem challenge_of_found (h : docket.requests[number]? = some request) :
    docket.challenge ticket verbose number challenge =
      let answer := request.gate.answer ticket verbose challenge
      { reply := answer.reply
        state := { docket with
          requests := docket.requests.set number
            { request with
              gate := answer.state
              exchanges := request.exchanges ++ [(challenge, answer.reply)] } }
        log := answer.log } := by
  rw [Docket.challenge, h]

theorem complete_of_found (h : docket.requests[number]? = some request) :
    docket.complete number status =
      { requests := docket.requests.set number
          { request with reports := request.reports ++ [status] }
        channel := docket.channel ++ [⟨request.entry.location, status⟩] } := by
  rw [Docket.complete, h]

theorem complete_of_unmade (h : ¬number < docket.requests.length) :
    docket.complete number status = docket := by
  rw [Docket.complete, List.getElem?_eq_none (by omega)]

variable (docket number)

/-- The end of an operation leaves the entries of requests. -/
@[simp] theorem entries_complete :
    (docket.complete number status).requests.map Request.entry =
      docket.requests.map Request.entry := by
  cases h : docket.requests[number]? with
  | none => rw [Docket.complete, h]
  | some request =>
      obtain ⟨hlt, hget⟩ := List.getElem?_eq_some_iff.mp h
      rw [complete_of_found status h, List.map_set, ← hget,
        ← List.getElem_map Request.entry (h := by simpa using hlt), List.set_getElem_self]

@[simp] theorem length_complete :
    (docket.complete number status).requests.length = docket.requests.length := by
  have h := congrArg List.length (entries_complete docket number status)
  rwa [List.length_map, List.length_map] at h

end Docket

/-! ### Runs -/

open Auth (Challenge)

namespace Run

/-- The end that an action reports, with the number of its request. -/
def Action.report? : Action → Option (Nat × Status)
  | .complete number status => some (number, status)
  | _ => none

/-- The ends that actions report, in their order. -/
def reported (actions : List Action) : List (Nat × Status) :=
  actions.filterMap Action.report?

/-- The completion that tells of the end of a request, in a run over some entries. -/
def announced? (entries : List Entry) (report : Nat × Status) : Option Completion :=
  entries[report.1]?.map fun entry => ⟨entry.location, report.2⟩

/-- The statuses reported of one request. -/
def statusesOf (number : Nat) (reports : List (Nat × Status)) : List Status :=
  (reports.filter fun report => report.1 = number).map Prod.snd

/-- How many requests have been made whose operations have not ended. -/
def underway (run : Run) : Nat :=
  run.docket.requests.countP fun request => request.reports.isEmpty

/-- What an action can do to a run. -/
inductive Step (verbose : Bool) (run : Run) : Action → Run → Prop where
  | dispatch {entry : Entry} {rest : List Entry} (next : run.undispatched = entry :: rest) :
      Step verbose run .dispatch
        { run with undispatched := rest, docket := run.docket.openRequest entry }
  | challenge {number : Nat} {challenge : Challenge}
      (made : number < run.docket.requests.length) :
      Step verbose run (.challenge number challenge)
        { run with
          docket := (run.docket.challenge run.ticket verbose number challenge).state }
  | complete {number : Nat} {status : Status} {request : Request}
      (found : run.docket.requests[number]? = some request) (running : request.reports = []) :
      Step verbose run (.complete number status)
        { run with docket := run.docket.complete number status }
  | ticket {named : Bool} : Step verbose run (.ticket named) { run with ticket := named }
  | track {completion : Completion} {rest : List Completion} (last : run.undispatched = [])
      (arrived : run.docket.channel = completion :: rest)
      (expected : run.settlement.settled = false) :
      Step verbose run .track
        { run with
          docket := { run.docket with channel := rest }
          settlement := run.settlement.take completion
          taken := run.taken ++ [completion] }

theorem step_of_step? {verbose : Bool} {run next : Run} {action : Action}
    (h : run.step? verbose action = some next) : Step verbose run action next := by
  cases action with
  | dispatch =>
      cases hrest : run.undispatched with
      | nil => simp [step?, hrest] at h
      | cons entry rest =>
          simp only [step?, hrest, Option.some.injEq] at h
          exact h ▸ .dispatch hrest
  | challenge number challenge =>
      simp only [step?, made, decide_eq_true_eq] at h
      split at h
      · exact Option.some.inj h ▸ .challenge ‹_›
      · cases h
  | complete number status =>
      simp only [step?] at h
      split at h
      · rename_i hflight
        obtain ⟨request, hfound, hrunning⟩ := Option.any_eq_true _ _ |>.mp hflight
        exact Option.some.inj h ▸ .complete hfound (List.isEmpty_iff.mp hrunning)
      · cases h
  | ticket named => exact Option.some.inj h ▸ .ticket
  | track =>
      simp only [step?, Settlement.record] at h
      split at h
      · rename_i hlast
        cases hchannel : run.docket.channel with
        | nil => simp [hchannel] at h
        | cons completion rest =>
            cases hsettled : run.settlement.settled with
            | true => simp [hchannel, hsettled] at h
            | false =>
                simp only [hchannel, hsettled, Bool.false_eq_true, if_false,
                  Option.some.injEq] at h
                exact h ▸ .track (List.isEmpty_iff.mp hlast) hchannel hsettled
      · cases h

/-- Where the entries of a run are, when these ends have been reported in this order. -/
structure Accounted (entries : List Entry) (reports : List (Nat × Status)) (run : Run) : Prop where
  dispatched : run.docket.requests.map Request.entry ++ run.undispatched = entries
  recorded : run.docket.requests.map Request.reports =
    (List.range run.docket.requests.length).map fun number => statusesOf number reports
  made : ∀ report ∈ reports, report.1 < run.docket.requests.length
  once : (reports.map Prod.fst).Nodup
  counted : run.underway + reports.length = run.docket.requests.length
  delivered : (run.taken ++ run.docket.channel).map some = reports.map (announced? entries)
  settlement : run.settlement = ⟨entries.length - run.taken.length, failures run.taken⟩

theorem Accounted.start (ticket : Bool) (entries : List Entry) :
    Accounted entries [] (start ticket entries) where
  dispatched := rfl
  recorded := rfl
  made := by simp
  once := List.nodup_nil
  counted := rfl
  delivered := rfl
  settlement := by simp [Run.start, failures]

/-- Nothing is reported of a request that has not been made. -/
theorem statusesOf_eq_nil {number : Nat} {reports : List (Nat × Status)} :
    statusesOf number reports = [] ↔ number ∉ reports.map Prod.fst := by
  simp only [statusesOf, List.map_eq_nil_iff, List.filter_eq_nil_iff, List.mem_map,
    decide_eq_true_eq]
  constructor
  · rintro h ⟨report, hmem, rfl⟩
    exact h report hmem rfl
  · rintro h report hmem rfl
    exact h ⟨report, hmem, rfl⟩

namespace Accounted

variable {entries : List Entry} {reports : List (Nat × Status)} {run next : Run} {verbose : Bool}

/-- A request keeps the statuses that were reported of it. -/
theorem reports_eq (h : Accounted entries reports run) {number : Nat} {request : Request}
    (hfound : run.docket.requests[number]? = some request) :
    request.reports = statusesOf number reports := by
  obtain ⟨hlt, hget⟩ := List.getElem?_eq_some_iff.mp hfound
  have hmap := congrArg (fun statuses => statuses[number]?) h.recorded
  simpa [hfound, List.getElem?_range hlt] using hmap

/-- A request that has been made is the one of its entry. -/
theorem entry_eq (h : Accounted entries reports run) {number : Nat} {request : Request}
    (hfound : run.docket.requests[number]? = some request) :
    entries[number]? = some request.entry := by
  obtain ⟨hlt, -⟩ := List.getElem?_eq_some_iff.mp hfound
  rw [← h.dispatched, List.getElem?_append_left (by simpa using hlt), List.getElem?_map, hfound]
  rfl

theorem dispatch (h : Accounted entries reports run) {entry : Entry} {rest : List Entry}
    (hnext : run.undispatched = entry :: rest) :
    Accounted entries reports
      { run with undispatched := rest, docket := run.docket.openRequest entry } where
  dispatched := by
    rw [← h.dispatched, hnext]
    simp [Docket.openRequest, Request.fresh]
  recorded := by
    have hnone : statusesOf run.docket.requests.length reports = [] := by
      rw [statusesOf_eq_nil, List.mem_map]
      rintro ⟨report, hmem, heq⟩
      exact absurd (h.made report hmem) (by omega)
    simp [Docket.openRequest, Request.fresh, List.range_succ, h.recorded, hnone]
  made := by
    intro report hmem
    have := h.made report hmem
    simp only [Docket.openRequest, List.length_append, List.length_singleton]
    omega
  once := h.once
  counted := by
    have hcounted := h.counted
    simp only [underway, Docket.openRequest, Request.fresh, List.countP_append, List.length_append,
      List.countP_singleton, List.length_singleton, List.isEmpty_nil, if_true] at hcounted ⊢
    omega
  delivered := h.delivered
  settlement := h.settlement

theorem challenge (h : Accounted entries reports run) (number : Nat) (challenge : Challenge) :
    Accounted entries reports
      { run with docket := (run.docket.challenge run.ticket verbose number challenge).state } := by
  have hlength := run.docket.length_challenge run.ticket verbose number challenge
  constructor
  · rw [Docket.entries_challenge]
    exact h.dispatched
  · rw [Docket.reports_challenge, hlength]
    exact h.recorded
  · rw [hlength]
    exact h.made
  · exact h.once
  · have hcounted := h.counted
    have hempty : ∀ docket : Docket,
        docket.requests.countP (fun request => request.reports.isEmpty) =
          (docket.requests.map Request.reports).countP List.isEmpty := by
      intro docket
      rw [List.countP_map]
      rfl
    simp only [underway, hempty, Docket.reports_challenge, hlength] at hcounted ⊢
    exact hcounted
  · rw [Docket.channel_challenge]
    exact h.delivered
  · exact h.settlement

theorem complete (h : Accounted entries reports run) {number : Nat} {request : Request}
    (hfound : run.docket.requests[number]? = some request) (hrunning : request.reports = [])
    (status : Status) :
    Accounted entries (reports ++ [(number, status)])
      { run with docket := run.docket.complete number status } := by
  obtain ⟨hlt, hget⟩ := List.getElem?_eq_some_iff.mp hfound
  have hnew : number ∉ reports.map Prod.fst := by
    rw [← statusesOf_eq_nil, ← h.reports_eq hfound]
    exact hrunning
  have hlength := run.docket.length_complete number status
  constructor
  · rw [Docket.entries_complete]
    exact h.dispatched
  · rw [hlength, Docket.complete_of_found status hfound, List.map_set, h.recorded]
    apply List.ext_getElem (by simp)
    intro other hother _
    simp only [List.length_set, List.length_map, List.length_range] at hother
    rw [List.getElem_set]
    split
    · subst other
      simp [h.reports_eq hfound, statusesOf]
    · rename_i hne
      simp [statusesOf, hne]
  · rw [hlength]
    simp only [List.mem_append, List.mem_singleton]
    rintro report (hmem | rfl)
    · exact h.made report hmem
    · exact hlt
  · rw [List.map_append]
    exact List.nodup_append.mpr ⟨h.once, List.nodup_singleton _, by
      simp only [List.map_cons, List.map_nil, List.mem_singleton]
      rintro other hmem _ rfl rfl
      exact hnew hmem⟩
  · have hcounted := h.counted
    have hpos : 0 < run.underway := by
      rw [underway, List.countP_pos_iff]
      exact ⟨request, List.mem_of_getElem? hfound, by rw [hrunning]; rfl⟩
    have hone : (run.docket.requests.set number
        { request with reports := request.reports ++ [status] }).countP
          (fun request => request.reports.isEmpty) = run.underway - 1 := by
      rw [List.countP_set hlt, hget, hrunning]
      rfl
    rw [underway, hlength, Docket.complete_of_found status hfound, hone, List.length_append,
      List.length_singleton]
    omega
  · have hentry := h.entry_eq hfound
    rw [Docket.complete_of_found status hfound, ← List.append_assoc, List.map_append, h.delivered,
      List.map_append]
    simp [announced?, hentry]
  · exact h.settlement

theorem track (h : Accounted entries reports run) {completion : Completion}
    {rest : List Completion} (harrived : run.docket.channel = completion :: rest) :
    Accounted entries reports
      { run with
        docket := { run.docket with channel := rest }
        settlement := run.settlement.take completion
        taken := run.taken ++ [completion] } where
  dispatched := h.dispatched
  recorded := h.recorded
  made := h.made
  once := h.once
  counted := h.counted
  delivered := by
    rw [← h.delivered, harrived]
    simp
  settlement := by
    have hcount : (entries.length : Int) - run.taken.length - 1 =
        entries.length - (run.taken ++ [completion]).length := by
      rw [List.length_append, List.length_singleton]
      omega
    rw [h.settlement, Settlement.take, failures_append, hcount]

/-- No action upsets the accounting; only an end that it reports adds to the reports. -/
theorem step (h : Accounted entries reports run) {action : Action}
    (hstep : run.step? verbose action = some next) :
    Accounted entries (reports ++ action.report?.toList) next := by
  cases step_of_step? hstep with
  | dispatch hnext => simpa [Action.report?] using h.dispatch hnext
  | challenge => simpa [Action.report?] using h.challenge _ _
  | complete hfound hrunning => exact h.complete hfound hrunning _
  | ticket =>
      simp only [Action.report?, Option.toList_none, List.append_nil]
      exact ⟨h.dispatched, h.recorded, h.made, h.once, h.counted, h.delivered, h.settlement⟩
  | track _ harrived => simpa [Action.report?] using h.track harrived

theorem steps (h : Accounted entries reports run) {actions : List Action}
    (hsteps : run.steps? verbose actions = some next) :
    Accounted entries (reports ++ reported actions) next := by
  induction actions generalizing run reports with
  | nil =>
      cases hsteps
      simpa [reported] using h
  | cons action rest ih =>
      rw [steps?] at hsteps
      cases hstep : run.step? verbose action with
      | none => simp [hstep] at hsteps
      | some middle =>
          rw [hstep] at hsteps
          have hreported : reported (action :: rest) = action.report?.toList ++ reported rest := by
            simp only [reported, List.filterMap_cons]
            cases action.report? <;> rfl
          rw [hreported, ← List.append_assoc]
          exact ih (h.step hstep) hsteps

theorem length_entries (h : Accounted entries reports run) :
    entries.length = run.docket.requests.length + run.undispatched.length := by
  rw [← h.dispatched, List.length_append, List.length_map]

theorem length_reports (h : Accounted entries reports run) :
    reports.length = run.taken.length + run.docket.channel.length := by
  have := congrArg List.length h.delivered
  simpa using this.symm

/-- The settlement counts the entries that have not been taken yet. -/
theorem outstanding_eq (h : Accounted entries reports run) :
    run.settlement.outstanding =
      run.undispatched.length + run.underway + run.docket.channel.length := by
  have hentries := h.length_entries
  have hreports := h.length_reports
  have hcounted := h.counted
  rw [h.settlement]
  dsimp only
  omega

theorem settled_iff_counts (h : Accounted entries reports run) :
    run.settlement.settled = true ↔
      run.undispatched.length = 0 ∧ run.underway = 0 ∧ run.docket.channel.length = 0 := by
  rw [Settlement.settled, beq_iff_eq, h.outstanding_eq]
  omega

/-- The numbers of the reports are numbers of entries, none of them twice. -/
theorem numbers_subperm (h : Accounted entries reports run) :
    (reports.map Prod.fst).Subperm (List.range entries.length) := by
  refine List.subperm_of_subset h.once ?_
  intro number hmem
  obtain ⟨report, hreport, rfl⟩ := List.mem_map.mp hmem
  have hmade := h.made report hreport
  have hentries := h.length_entries
  exact List.mem_range.mpr (by omega)

/-- All entries have been reported when none is at any other place. -/
theorem perm_of_settled (h : Accounted entries reports run)
    (hsettled : run.settlement.settled = true) :
    (reports.map Prod.fst).Perm (List.range entries.length) := by
  obtain ⟨hundispatched, hunderway, -⟩ := h.settled_iff_counts.mp hsettled
  have hentries := h.length_entries
  have hcounted := h.counted
  apply h.numbers_subperm.perm_of_length_le
  rw [List.length_range, List.length_map]
  omega

theorem settled_iff (h : Accounted entries reports run) :
    run.settlement.settled = true ↔
      (∀ number < entries.length, ∃ status, (number, status) ∈ reports) ∧
        run.docket.channel = [] := by
  constructor
  · intro hsettled
    refine ⟨fun number hlt => ?_, List.length_eq_zero_iff.mp (h.settled_iff_counts.mp hsettled).2.2⟩
    have hmem := (h.perm_of_settled hsettled).mem_iff.mpr (List.mem_range.mpr hlt)
    obtain ⟨⟨_, status⟩, hreport, rfl⟩ := List.mem_map.mp hmem
    exact ⟨status, hreport⟩
  · rintro ⟨hall, hchannel⟩
    have hrange : (List.range entries.length).Subperm (reports.map Prod.fst) := by
      refine List.subperm_of_subset List.nodup_range ?_
      intro number hmem
      obtain ⟨status, hreport⟩ := hall number (List.mem_range.mp hmem)
      exact List.mem_map.mpr ⟨(number, status), hreport, rfl⟩
    have hlength := hrange.length_le
    have hentries := h.length_entries
    have hcounted := h.counted
    rw [List.length_range, List.length_map] at hlength
    rw [h.settled_iff_counts, hchannel]
    refine ⟨by omega, by omega, rfl⟩

/-- While completions are outstanding, one can arrive. -/
theorem inFlight_of_waiting (h : Accounted entries reports run)
    (hwaiting : run.settlement.settled = false) (hlast : run.undispatched = [])
    (hempty : run.docket.channel = []) : ∃ number, run.inFlight number = true := by
  have hpos : 0 < run.underway := by
    by_contra hzero
    have hsettled := h.settled_iff_counts.mpr
      ⟨by rw [hlast]; rfl, by omega, by rw [hempty]; rfl⟩
    rw [hwaiting] at hsettled
    cases hsettled
  obtain ⟨request, hmem, hrunning⟩ := List.countP_pos_iff.mp hpos
  obtain ⟨number, hfound⟩ := List.mem_iff_getElem?.mp hmem
  exact ⟨number, by rw [inFlight, hfound]; exact hrunning⟩

/-- A completion that has arrived is never surplus. -/
theorem record_of_arrived (h : Accounted entries reports run) {completion : Completion}
    {rest : List Completion} (harrived : run.docket.channel = completion :: rest) :
    run.settlement.record verbose completion =
      .ok (run.settlement.take completion, Settlement.report verbose completion) := by
  have hexpected : ¬run.settlement.settled = true := by
    intro hsettled
    have hempty := (h.settled_iff_counts.mp hsettled).2.2
    simp [harrived] at hempty
  rw [Settlement.record, if_neg hexpected]

end Accounted

/-- In every state that a run can reach, the outstanding completions are those of the entries not
yet dispatched, of the requests under way, and of the completions on the channel. So settling never
waits for nothing, never meets a surplus completion, and stops exactly when every request has
ended and the channel is empty. What has been taken and what is on the channel are the completions of
the reports in their order, and in the end there is one report for each entry. -/
theorem outstanding_accounts_for_every_entry {ticket verbose : Bool} {entries : List Entry}
    {actions : List Action} {run : Run}
    (h : (start ticket entries).steps? verbose actions = some run) :
    run.settlement.outstanding =
      run.undispatched.length + run.underway + run.docket.channel.length ∧
    (run.settlement.settled = false → run.undispatched = [] → run.docket.channel = [] →
      ∃ number, run.inFlight number = true) ∧
    (∀ completion rest, run.docket.channel = completion :: rest →
      ∃ settled, run.settlement.record verbose completion = .ok settled) ∧
    (run.settlement.settled = true ↔
      (∀ number < entries.length, ∃ status, (number, status) ∈ reported actions) ∧
        run.docket.channel = []) ∧
    (run.taken ++ run.docket.channel).map some = (reported actions).map (announced? entries) ∧
    (run.settlement.settled = true →
      ((reported actions).map Prod.fst).Perm (List.range entries.length) ∧
        run.taken.map some = (reported actions).map (announced? entries)) := by
  have haccounted : Accounted entries (reported actions) run := by
    simpa using (Accounted.start ticket entries).steps h
  refine ⟨haccounted.outstanding_eq, haccounted.inFlight_of_waiting, ?_, haccounted.settled_iff,
    haccounted.delivered, ?_⟩
  · intro completion rest harrived
    exact ⟨_, haccounted.record_of_arrived harrived⟩
  · intro hsettled
    have hempty := (haccounted.settled_iff.mp hsettled).2
    refine ⟨haccounted.perm_of_settled hsettled, ?_⟩
    rw [← haccounted.delivered, hempty, List.append_nil]

/-- Three entries, two of them of one location. The first operation ends before the second request is
made, the third before the second, and one completion is taken while another is still to come. -/
theorem interleaved_run_settles :
    ∃ run, (start false [⟨"smb://h/a", true⟩, ⟨"smb://h/a", false⟩, ⟨"smb://h/b", false⟩]).steps? true
        [.dispatch, .complete 0 .done, .dispatch, .dispatch, .track, .challenge 1 {},
          .complete 2 (.failed ⟨Failure.failed, "refused"⟩), .ticket true, .track,
          .complete 1 (.stray .asked), .track] = some run ∧
      run.settlement.settled = true ∧
      run.taken.map some = [some ⟨"smb://h/a", .done⟩,
        some ⟨"smb://h/b", .failed ⟨Failure.failed, "refused"⟩⟩,
        some ⟨"smb://h/a", .stray .asked⟩] := by
  have h := Option.some_get (show ((start false [⟨"smb://h/a", true⟩, ⟨"smb://h/a", false⟩,
    ⟨"smb://h/b", false⟩]).steps? true [.dispatch, .complete 0 .done, .dispatch, .dispatch, .track,
      .challenge 1 {}, .complete 2 (.failed ⟨Failure.failed, "refused"⟩), .ticket true, .track,
      .complete 1 (.stray .asked), .track]).isSome = true by decide +kernel)
  obtain ⟨-, -, -, -, -, hsettled⟩ := outstanding_accounts_for_every_entry h.symm
  exact ⟨_, h.symm, by decide +kernel, (hsettled (by decide +kernel)).2.trans (by decide +kernel)⟩

end Run

end SessionMounts.Mounting
