import SessionMounts.Mounting.Scripted
import SessionMounts.Proofs.Mounting.Reports

/-!
The outcome of mounting entries with a provider that reports each end once. It is decided by the
statuses alone: all is well if every failure says that the location was mounted before, and otherwise
all failures are handed over. The order in which the ends are reported shows only in the order
of the failures (`outcome_decided_by_statuses`).
-/

namespace SessionMounts.Mounting

/-- The location and the failure of the entry with a number, if its operation fails. -/
def failureAt? (entries : List Entry) (status : Nat → Status) (number : Nat) :
    Option (String × Failure) :=
  entries[number]?.bind fun entry =>
    (status number).failure?.map fun failure => (entry.location, failure)

/-- The failures of the entries whose operations fail, in the order in which they end. -/
def failuresIn (entries : List Entry) (status : Nat → Status) (order : List Nat) : Failures :=
  order.filterMap (failureAt? entries status)

/-- No operation fails, unless its location was mounted before. -/
def OnlyMountedBefore (entries : List Entry) (status : Nat → Status) : Prop :=
  ∀ number < entries.length, ∀ failure, status number = .failed failure →
    failure.kind = Failure.alreadyMounted

/-- A provider accepts the request of every entry, and reports the end of each operation once, with
these statuses and in this order. -/
structure Provider.Serves {σ : Type} (provider : Provider σ) (ticket verbose : Bool) (state : σ)
    (entries : List Entry) (status : Nat → Status) (order : List Nat) : Prop where
  accepted : (provider.dispatch ticket verbose state {} entries).refusal = none
  reported : provider.reports ticket verbose state entries =
    order.map fun number => (number, status number)
  once : order.Perm (List.range entries.length)

/-- The failures among the completions that tell of some ends. -/
theorem failures_of_announced {entries : List Entry} {status : Nat → Status} {order : List Nat}
    {completions : List Completion}
    (h : completions.map some =
      order.map fun number => Run.announced? entries (number, status number)) :
    failures completions = failuresIn entries status order := by
  let failed (completion : Completion) : Option (String × Failure) :=
    completion.status.failure?.map fun failure => (completion.location, failure)
  have hat : ∀ number, (Run.announced? entries (number, status number)).bind failed =
      failureAt? entries status number := by
    intro number
    rw [Run.announced?, failureAt?]
    cases entries[number]? <;> rfl
  calc
    failures completions = (completions.map some).filterMap fun told => told.bind failed := by
      rw [List.filterMap_map]
      rfl
    _ = order.filterMap fun number =>
        (Run.announced? entries (number, status number)).bind failed := by
      rw [h, List.filterMap_map]
      rfl
    _ = failuresIn entries status order := by
      simp only [hat]
      rfl

theorem all_failuresIn_iff {entries : List Entry} {status : Nat → Status} {order : List Nat}
    (hall : order.Perm (List.range entries.length)) :
    ((failuresIn entries status order).all fun failed => failed.2.isAlreadyMounted) = true ↔
      OnlyMountedBefore entries status := by
  rw [List.all_eq_true]
  constructor
  · intro h number hlt failure hfailed
    have hmem : (entries[number].location, failure) ∈ failuresIn entries status order := by
      refine List.mem_filterMap.mpr ⟨number, hall.mem_iff.mpr (List.mem_range.mpr hlt), ?_⟩
      rw [failureAt?, List.getElem?_eq_getElem hlt, hfailed]
      rfl
    exact beq_iff_eq.mp (h _ hmem)
  · rintro h ⟨location, failure⟩ hmem
    obtain ⟨number, hnumber, hat⟩ := List.mem_filterMap.mp hmem
    have hlt := List.mem_range.mp (hall.mem_iff.mp hnumber)
    have hfailed : status number = .failed failure := by
      rw [failureAt?, List.getElem?_eq_getElem hlt, Option.bind_some] at hat
      cases hstatus : status number <;> simp_all [Status.failure?]
    exact beq_iff_eq.mpr (h number hlt failure hfailed)

/-- However the reports and the taking of completions are interleaved, a run that has settled ends as
its statuses say. -/
theorem Run.Reaches.ending_eq {ticket verbose : Bool} {entries : List Entry}
    {status : Nat → Status} {order : List Nat} {run : Run}
    (h : (Run.start ticket entries).Reaches verbose
      (order.map fun number => (number, status number)) run)
    (hsettled : run.settlement.settled = true) :
    run.settlement.ending =
      if (failuresIn entries status order).all fun failed => failed.2.isAlreadyMounted then .mounted
      else .failed (failuresIn entries status order) := by
  have haccounted := h.accounted (Run.Accounted.start ticket entries)
  have htaken := haccounted.delivered
  rw [(haccounted.settled_iff.mp hsettled).2, List.append_nil, List.nil_append,
    List.map_map] at htaken
  have hfailures : run.settlement.failures = failuresIn entries status order := by
    rw [haccounted.settlement]
    exact failures_of_announced htaken
  rw [Settlement.ending, if_pos hsettled, hfailures]

namespace Provider.Serves

variable {σ : Type} {provider : Provider σ} {ticket verbose : Bool} {state : σ}
  {entries : List Entry} {status : Nat → Status} {order : List Nat}

/-- The mounting of the entries is a run that settles. -/
theorem settles (h : provider.Serves ticket verbose state entries status order)
    (hne : entries ≠ []) :
    ∃ run, (Run.start ticket entries).Reaches verbose
        (order.map fun number => (number, status number)) run ∧
      run.settlement.settled = true ∧
      (provider.mount ticket verbose state entries).acts =
        entries.map (fun entry => .dispatched (Request.fresh entry)) ++ run.taken.map .consumed ∧
      run.settlement.ending = (provider.mount ticket verbose state entries).ending := by
  have hnumbers : (provider.reports ticket verbose state entries).map Prod.fst = order := by
    rw [h.reported, List.map_map]
    exact List.map_id order
  obtain ⟨run, hreaches, hstop, -, hacts, hending⟩ := provider.reaches_of_mount hne h.accepted
    (by rw [hnumbers]; exact h.once.nodup_iff.mpr List.nodup_range)
  rw [h.reported] at hreaches
  have haccounted := hreaches.accounted (Run.Accounted.start ticket entries)
  refine ⟨run, hreaches, ?_, hacts, hending⟩
  rcases hstop with hsettled | hempty
  · exact hsettled
  · refine haccounted.settled_iff.mpr ⟨fun number hlt => ⟨status number, ?_⟩, hempty⟩
    exact List.mem_map.mpr ⟨number, h.once.mem_iff.mpr (List.mem_range.mpr hlt), rfl⟩

/-- Its failures are those of the entries in the order of their ends. -/
theorem ending_eq (h : provider.Serves ticket verbose state entries status order)
    (hne : entries ≠ []) :
    (provider.mount ticket verbose state entries).ending =
      if (failuresIn entries status order).all fun failed => failed.2.isAlreadyMounted then .mounted
      else .failed (failuresIn entries status order) := by
  obtain ⟨run, hreaches, hsettled, -, hending⟩ := h.settles hne
  rw [← hending]
  exact hreaches.ending_eq hsettled

/-- All entries are dispatched, and then the completion of each is taken, in the order of their ends. -/
theorem acts_eq (h : provider.Serves ticket verbose state entries status order)
    (hne : entries ≠ []) :
    (provider.mount ticket verbose state entries).acts =
      entries.map (fun entry => .dispatched (Request.fresh entry)) ++
        (order.filterMap fun number => Run.announced? entries (number, status number)).map
          .consumed := by
  obtain ⟨run, hreaches, hsettled, hacts, -⟩ := h.settles hne
  have haccounted := hreaches.accounted (Run.Accounted.start ticket entries)
  have htaken := haccounted.delivered
  rw [(haccounted.settled_iff.mp hsettled).2, List.append_nil, List.nil_append,
    List.map_map] at htaken
  have htold : (run.taken.map some).filterMap id = run.taken := by
    rw [List.filterMap_map]
    exact List.filterMap_some
  rw [hacts, ← htold, htaken, List.filterMap_map]
  rfl

theorem ending_eq_mounted_iff (h : provider.Serves ticket verbose state entries status order)
    (hne : entries ≠ []) :
    (provider.mount ticket verbose state entries).ending = .mounted ↔
      OnlyMountedBefore entries status := by
  rw [h.ending_eq hne, ← all_failuresIn_iff h.once]
  constructor
  · intro hmounted
    by_contra hfailed
    rw [if_neg hfailed] at hmounted
    cases hmounted
  · exact fun hall => if_pos hall

theorem ending_eq_failed (h : provider.Serves ticket verbose state entries status order)
    (hne : entries ≠ []) (hfailed : ¬OnlyMountedBefore entries status) :
    (provider.mount ticket verbose state entries).ending =
      .failed (failuresIn entries status order) := by
  rw [← all_failuresIn_iff h.once] at hfailed
  rw [h.ending_eq hne, if_neg hfailed]

end Provider.Serves

/-- Mounting entries succeeds exactly if every failure tells of a location mounted before. Otherwise
it hands over all failures, those of locations mounted before included, in the order in which the
operations ended, and its message lists their locations in that order. It does not matter when the
ends are reported and when they are taken; and two runs with the same statuses both succeed or both
fail, and their failures differ in their order only. -/
theorem outcome_decided_by_statuses {σ σ' : Type} {entries : List Entry} {status : Nat → Status}
    {provider : Provider σ} {ticket verbose : Bool} {state : σ} {order : List Nat}
    {provider' : Provider σ'} {ticket' verbose' : Bool} {state' : σ'} {order' : List Nat}
    (hne : entries ≠ [])
    (h : provider.Serves ticket verbose state entries status order)
    (h' : provider'.Serves ticket' verbose' state' entries status order') :
    let ending := (provider.mount ticket verbose state entries).ending
    let ending' := (provider'.mount ticket' verbose' state' entries).ending
    (ending = .mounted ↔ OnlyMountedBefore entries status) ∧
    (¬OnlyMountedBefore entries status →
      ending = .failed (failuresIn entries status order) ∧
      (failuresIn entries status order).text = "failed to mount: " ++ ", ".intercalate
        (order.filterMap fun number => (failureAt? entries status number).map Prod.fst)) ∧
    (∀ run, (Run.start ticket entries).Reaches verbose
        (order.map fun number => (number, status number)) run →
      run.settlement.settled = true → run.settlement.ending = ending) ∧
    (ending = .mounted ↔ ending' = .mounted) ∧
    (∀ failures, ending = .failed failures →
      ∃ failures', ending' = .failed failures' ∧ failures.Perm failures') := by
  intro ending ending'
  have hmounted := h.ending_eq_mounted_iff hne
  have hmounted' := h'.ending_eq_mounted_iff hne
  refine ⟨hmounted, fun hfailed => ⟨h.ending_eq_failed hne hfailed, ?_⟩,
    ?_, hmounted.trans hmounted'.symm, ?_⟩
  · have hlocations : (failuresIn entries status order).map Prod.fst =
        order.filterMap fun number => (failureAt? entries status number).map Prod.fst :=
      List.map_filterMap
    exact congrArg (fun locations => "failed to mount: " ++ ", ".intercalate locations) hlocations
  · intro run hreaches hsettled
    rw [hreaches.ending_eq hsettled]
    exact (h.ending_eq hne).symm
  · intro failures hending
    have hfailed : ¬OnlyMountedBefore entries status := by
      intro honly
      cases (hmounted.mpr honly).symm.trans hending
    have hsame := (h.ending_eq_failed hne hfailed).symm.trans hending
    cases hsame
    refine ⟨_, h'.ending_eq_failed hne hfailed, ?_⟩
    exact (h.once.trans h'.once.symm).filterMap _

/-- Two entries of one location and one of another, whose operations all end but none of them well. -/
def twins : List Entry :=
  [⟨"smb://h/a", true⟩, ⟨"smb://h/b", false⟩, ⟨"smb://h/a", false⟩]

def twinStatuses : List Status :=
  [.failed ⟨Failure.failed, "refused"⟩, .stray .asked, .failed ⟨Failure.alreadyMounted, "mounted"⟩]

/-- A provider of the twins, which reports at once or holds all ends back. -/
def twinPlans (release : Option Scripted.Release) : Scripted.State where
  plans := twinStatuses.map (.serve [{ anonymousSupported := true }])
  release := release

/-- The twins fail alike whether their ends are reported at once or held back and reported in
another order. -/
theorem twins_fail_in_order_of_reports :
    (Scripted.provider.mount false true (twinPlans none) twins).ending =
      .failed [("smb://h/a", ⟨Failure.failed, "refused"⟩),
        ("smb://h/a", ⟨Failure.alreadyMounted, "mounted"⟩)] ∧
    ∃ failures, (Scripted.provider.mount true false (twinPlans (some ⟨3, [2, 0, 1]⟩)) twins).ending =
      .failed failures ∧ [("smb://h/a", ⟨Failure.failed, "refused"⟩),
        ("smb://h/a", ⟨Failure.alreadyMounted, "mounted"⟩)].Perm failures := by
  have h : Scripted.provider.Serves false true (twinPlans none) twins
      (fun number => twinStatuses[number]?.getD .done) [0, 1, 2] :=
    ⟨by decide +kernel, by decide +kernel, by decide⟩
  have h' : Scripted.provider.Serves true false (twinPlans (some ⟨3, [2, 0, 1]⟩)) twins
      (fun number => twinStatuses[number]?.getD .done) [2, 0, 1] :=
    ⟨by decide +kernel, by decide +kernel, by decide⟩
  obtain ⟨-, hfailed, -, -, hperm⟩ := outcome_decided_by_statuses (by decide) h h'
  have hkind : ¬OnlyMountedBefore twins fun number => twinStatuses[number]?.getD .done := by
    intro hmounted
    exact absurd (hmounted 0 (by decide) ⟨Failure.failed, "refused"⟩ rfl) (by decide)
  have hending := (hfailed hkind).1
  exact ⟨hending, hperm _ hending⟩

end SessionMounts.Mounting
