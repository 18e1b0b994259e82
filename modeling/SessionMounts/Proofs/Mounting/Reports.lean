import SessionMounts.Proofs.Mounting.Accounting

/-!
The ends that a provider reports while it serves a list of entries, and the mounting of the entries as
a path through the system of small steps. A report about a request that has not been made concerns
nobody; the others are heard. If nothing is heard twice of one request, whatever the provider
does can be done step by step (`Provider.reaches_of_mount`), so what holds of every reachable state
holds of the mounting of entries.
-/

namespace SessionMounts.Mounting

open Auth (Challenge Reply)

/-- The ends that a conduct reports when it is played against a party. -/
def Conduct.reports {α τ : Type} (party : Party τ) : Conduct α → τ → List (Nat × Status)
  | .finish _, _ => []
  | .say _ next, state => next.reports party state
  | .ask request challenge next, state =>
    let answer := party.answer state request challenge
    (next answer.reply).reports party answer.state
  | .complete request status next, state =>
    (request, status) :: next.reports party (party.complete state request status)

/-- The reports about requests that have been made. -/
def Docket.heard (docket : Docket) (reports : List (Nat × Status)) : List (Nat × Status) :=
  reports.filter fun report => report.1 < docket.requests.length

namespace Provider

variable {σ : Type}

/-- The ends heard while entries are dispatched. -/
def reportsOfDispatch (provider : Provider σ) (ticket verbose : Bool) (state : σ)
    (docket : Docket) : List Entry → List (Nat × Status)
  | [] => []
  | entry :: rest =>
    let opened := docket.openRequest entry
    let conduct := provider.start state docket.requests.length (Request.fresh entry)
    let first := provider.request ticket verbose state docket entry
    opened.heard (conduct.reports (Docket.party ticket verbose) opened) ++
      match first.refusal with
      | some _ => []
      | none => provider.reportsOfDispatch ticket verbose first.state first.docket rest

/-- The ends heard while entries are mounted, in the order in which they are reported. -/
def reports (provider : Provider σ) (ticket verbose : Bool) (state : σ) (entries : List Entry) :
    List (Nat × Status) :=
  let dispatched := provider.dispatch ticket verbose state {} entries
  provider.reportsOfDispatch ticket verbose state {} entries ++
    match dispatched.refusal with
    | some _ => []
    | none =>
      dispatched.docket.heard ((provider.settle dispatched.state).reports
        (Docket.party ticket verbose) dispatched.docket)

end Provider

namespace Run

variable {verbose : Bool} {run middle next : Run}

/-- A run can go on to another state, and these are the ends reported on the way. -/
def Reaches (verbose : Bool) (run : Run) (reports : List (Nat × Status)) (next : Run) : Prop :=
  ∃ actions, run.steps? verbose actions = some next ∧ reported actions = reports

theorem steps?_append (front back : List Action) :
    run.steps? verbose (front ++ back) =
      (run.steps? verbose front).bind fun middle => middle.steps? verbose back := by
  induction front generalizing run with
  | nil => rfl
  | cons action rest ih =>
      rw [List.cons_append, steps?, steps?]
      cases run.step? verbose action with
      | none => rfl
      | some middle => exact ih

theorem once_of_append {front back : List (Nat × Status)}
    (h : ((front ++ back).map Prod.fst).Nodup) : (front.map Prod.fst).Nodup := by
  rw [List.map_append] at h
  exact (List.nodup_append.mp h).1

namespace Reaches

theorem refl (verbose : Bool) (run : Run) : Reaches verbose run [] run :=
  ⟨[], rfl, rfl⟩

theorem trans {front back : List (Nat × Status)} (hfront : Reaches verbose run front middle)
    (hback : Reaches verbose middle back next) : Reaches verbose run (front ++ back) next := by
  obtain ⟨first, hfirst, rfl⟩ := hfront
  obtain ⟨second, hsecond, rfl⟩ := hback
  refine ⟨first ++ second, ?_, List.filterMap_append⟩
  rw [steps?_append, hfirst]
  exact hsecond

theorem of_step {action : Action} (h : run.step? verbose action = some next) :
    Reaches verbose run action.report?.toList next := by
  refine ⟨[action], by rw [steps?, h]; rfl, ?_⟩
  cases action <;> rfl

theorem accounted {entries : List Entry} {before after : List (Nat × Status)}
    (h : Reaches verbose run after next) (haccounted : Accounted entries before run) :
    Accounted entries (before ++ after) next := by
  obtain ⟨actions, hsteps, rfl⟩ := h
  exact haccounted.steps hsteps

end Reaches

/-- A challenge can be put at any time; nobody hears of it when it is for no request. -/
theorem reaches_challenge (run : Run) (number : Nat) (challenge : Challenge) :
    run.Reaches verbose []
      { run with docket := (run.docket.challenge run.ticket verbose number challenge).state } := by
  by_cases hmade : number < run.docket.requests.length
  · have hstep : run.step? verbose (.challenge number challenge) =
        some { run with
          docket := (run.docket.challenge run.ticket verbose number challenge).state } := by
      rw [step?, made, if_pos (decide_eq_true hmade)]
    exact .of_step hstep
  · rw [Docket.challenge_of_unmade run.ticket verbose run.docket number challenge hmade]
    exact .refl verbose run

namespace Accounted

variable {entries : List Entry} {before : List (Nat × Status)} {number : Nat}

/-- A request that nothing has been reported of is in flight. -/
theorem inFlight (h : Accounted entries before run)
    (hmade : number < run.docket.requests.length) (hnew : number ∉ before.map Prod.fst) :
    run.inFlight number = true := by
  have hfound := List.getElem?_eq_getElem hmade
  have hrunning := h.reports_eq hfound
  rw [statusesOf_eq_nil.mpr hnew] at hrunning
  rw [Run.inFlight, hfound, Option.any_some, hrunning]
  rfl

/-- The end of an operation can be reported unless it has been before. -/
theorem reaches_complete (h : Accounted entries before run) {status : Status}
    (honce : ((before ++ run.docket.heard [(number, status)]).map Prod.fst).Nodup) :
    run.Reaches verbose (run.docket.heard [(number, status)])
      { run with docket := run.docket.complete number status } := by
  by_cases hmade : number < run.docket.requests.length
  · have hheard : run.docket.heard [(number, status)] = [(number, status)] :=
      List.filter_cons_of_pos (decide_eq_true hmade)
    rw [hheard, List.map_append] at honce
    rw [hheard]
    have hnew : number ∉ before.map Prod.fst := by
      intro hmem
      exact (List.nodup_append.mp honce).2.2 number hmem number (List.mem_singleton_self number) rfl
    have hstep : run.step? verbose (.complete number status) =
        some { run with docket := run.docket.complete number status } := by
      rw [step?, if_pos (h.inFlight hmade hnew)]
    exact .of_step hstep
  · have hheard : run.docket.heard [(number, status)] = [] := by
      simpa [Docket.heard] using hmade
    rw [hheard, Docket.complete_of_unmade status hmade]
    exact .refl verbose run

end Accounted

end Run

namespace Docket

variable {docket other : Docket}

theorem heard_append (docket : Docket) (front back : List (Nat × Status)) :
    docket.heard (front ++ back) = docket.heard front ++ docket.heard back :=
  List.filter_append ..

/-- What is heard depends only on how many requests have been made. -/
theorem heard_congr (h : other.requests.length = docket.requests.length)
    (reports : List (Nat × Status)) : other.heard reports = docket.heard reports := by
  rw [heard, heard, h]

end Docket

namespace Conduct

variable {α : Type} {verbose : Bool}

/-- Whatever a conduct does can be done step by step, unless it reports an end twice. -/
theorem reaches (conduct : Conduct α) {entries : List Entry} {before : List (Nat × Status)}
    {run : Run} (haccounted : Run.Accounted entries before run)
    (honce : ((before ++ run.docket.heard
      (conduct.reports (Docket.party run.ticket verbose) run.docket)).map Prod.fst).Nodup) :
    run.Reaches verbose
      (run.docket.heard (conduct.reports (Docket.party run.ticket verbose) run.docket))
      { run with
        docket := (conduct.run verbose (Docket.party run.ticket verbose) run.docket).state } := by
  induction conduct generalizing run before with
  | finish value => exact .refl verbose run
  | say message next ih => exact ih haccounted honce
  | ask request challenge next ih =>
      let asked := run.docket.challenge run.ticket verbose request challenge
      let after : Run := { run with docket := asked.state }
      have hheard : ∀ reports, after.docket.heard reports = run.docket.heard reports :=
        Docket.heard_congr (run.docket.length_challenge run.ticket verbose request challenge)
      have hafter : Run.Accounted entries before after := haccounted.challenge request challenge
      have hrest := ih asked.reply hafter (by rw [hheard]; exact honce)
      rw [hheard] at hrest
      exact (run.reaches_challenge request challenge).trans hrest
  | complete request status next ih =>
      let after : Run := { run with docket := run.docket.complete request status }
      have hheard : ∀ reports, after.docket.heard reports = run.docket.heard reports :=
        Docket.heard_congr (run.docket.length_complete request status)
      have hsplit : run.docket.heard
          ((complete request status next).reports (Docket.party run.ticket verbose) run.docket) =
          run.docket.heard [(request, status)] ++ run.docket.heard
            (next.reports (Docket.party run.ticket verbose) after.docket) :=
        run.docket.heard_append [(request, status)] _
      rw [hsplit] at honce ⊢
      rw [← List.append_assoc] at honce
      have hended : run.Reaches verbose (run.docket.heard [(request, status)]) after :=
        haccounted.reaches_complete (Run.once_of_append honce)
      have hrest := ih (hended.accounted haccounted) (by rw [hheard]; exact honce)
      rw [hheard] at hrest
      exact hended.trans hrest

end Conduct

namespace Provider

variable {σ : Type} {verbose : Bool} (provider : Provider σ)

/-- Dispatching entries is a path through the small steps; the entries after a refused one stay
undispatched. -/
theorem reaches_of_dispatch (rest : List Entry) {state : σ} {entries : List Entry}
    {before : List (Nat × Status)} {run : Run} (haccounted : Run.Accounted entries before run)
    (hrest : run.undispatched = rest)
    (honce : ((before ++ provider.reportsOfDispatch run.ticket verbose state run.docket rest).map
      Prod.fst).Nodup) :
    run.Reaches verbose (provider.reportsOfDispatch run.ticket verbose state run.docket rest)
      { run with
        undispatched :=
          rest.drop (provider.dispatch run.ticket verbose state run.docket rest).made.length
        docket := (provider.dispatch run.ticket verbose state run.docket rest).docket } := by
  induction rest generalizing state before run with
  | nil =>
      obtain ⟨_, ticket, docket, settlement, taken⟩ := run
      cases hrest
      exact .refl verbose _
  | cons entry rest ih =>
      let first := provider.request run.ticket verbose state run.docket entry
      let opened : Run :=
        { run with undispatched := rest, docket := run.docket.openRequest entry }
      let conduct := provider.start state run.docket.requests.length (Request.fresh entry)
      let served := conduct.reports (Docket.party run.ticket verbose) opened.docket
      have hopened : run.Reaches verbose [] opened :=
        .of_step (show run.step? verbose .dispatch = some opened by rw [Run.step?, hrest])
      have hplayed : ((before ++ opened.docket.heard served).map Prod.fst).Nodup →
          opened.Reaches verbose (opened.docket.heard served)
            { opened with docket := first.docket } :=
        conduct.reaches (haccounted.dispatch hrest)
      rw [reportsOfDispatch] at honce ⊢
      rw [dispatch]
      cases hrefusal : first.refusal with
      | some refusal =>
          simp only [first, hrefusal, List.append_nil] at honce ⊢
          exact hopened.trans (hplayed honce)
      | none =>
          simp only [first, hrefusal] at honce ⊢
          rw [← List.append_assoc] at honce
          have hfirst := hplayed (Run.once_of_append honce)
          have hothers := ih (hfirst.accounted (haccounted.dispatch hrest)) rfl honce
          exact hopened.trans (hfirst.trans hothers)

end Provider

/-- Draining the channel is taking completions one after another. -/
theorem Run.steps?_drain {verbose : Bool} (channel : List Completion) {run : Run}
    (hlast : run.undispatched = []) (hchannel : run.docket.channel = channel) :
    let drained := run.settlement.drain verbose channel
    run.steps? verbose (List.replicate drained.taken.length .track) = some
      { run with
        docket := { run.docket with channel := drained.unread }
        settlement := drained.settlement
        taken := run.taken ++ drained.taken } := by
  induction channel generalizing run with
  | nil =>
      obtain ⟨undispatched, ticket, ⟨requests, _⟩, settlement, taken⟩ := run
      cases hchannel
      simp only [Settlement.drain, List.append_nil]
      rfl
  | cons completion rest ih =>
      rw [Settlement.drain]
      cases hrecord : run.settlement.record verbose completion with
      | error surplus =>
          obtain ⟨undispatched, ticket, ⟨requests, _⟩, settlement, taken⟩ := run
          cases hchannel
          simp only [List.append_nil]
          rfl
      | ok recorded =>
          obtain ⟨settlement, log⟩ := recorded
          let taken : Run :=
            { run with
              docket := { run.docket with channel := rest }
              settlement := settlement
              taken := run.taken ++ [completion] }
          have htake : run.step? verbose .track = some taken := by
            simp only [step?, hlast, List.isEmpty_nil, if_true, hchannel, hrecord, taken]
          have hrest := ih (show taken.undispatched = [] from hlast) rfl
          simp only [List.length_cons, List.replicate_succ, steps?, htake]
          simpa only [taken, List.append_assoc, List.singleton_append] using hrest

/-- Draining the channel is a path through the small steps. -/
theorem Run.reaches_of_drain {verbose : Bool} (channel : List Completion) {run : Run}
    (hlast : run.undispatched = []) (hchannel : run.docket.channel = channel) :
    run.Reaches verbose []
      { run with
        docket := { run.docket with
          channel := (run.settlement.drain verbose channel).unread }
        settlement := (run.settlement.drain verbose channel).settlement
        taken := run.taken ++ (run.settlement.drain verbose channel).taken } := by
  refine ⟨_, steps?_drain channel hlast hchannel, ?_⟩
  exact List.filterMap_replicate_of_none rfl

/-- Draining ends with nothing outstanding or with nothing to read. -/
theorem Settlement.settled_or_unread_eq_nil (verbose : Bool) (settlement : Settlement)
    (channel : List Completion) :
    (settlement.drain verbose channel).settlement.settled = true ∨
      (settlement.drain verbose channel).unread = [] := by
  induction channel generalizing settlement with
  | nil => exact .inr rfl
  | cons completion rest ih =>
      rw [drain, record]
      split
      · rename_i hrecord
        split at hrecord
        · exact .inl ‹_›
        · cases hrecord
      · exact ih _

/-- How a run ends whose requests were all accepted. -/
def Settlement.ending (settlement : Settlement) : Ending :=
  if settlement.settled then
    if settlement.failures.all fun failed => failed.2.isAlreadyMounted then .mounted
    else .failed settlement.failures
  else .waiting

theorem Settlement.Drained.judge_fst (drained : Settlement.Drained) :
    drained.judge.1 = drained.settlement.ending := by
  cases hsettled : drained.settlement.settled with
  | false => simp [judge, waiting, ending, hsettled]
  | true =>
      cases hall : drained.settlement.failures.all fun failed => failed.2.isAlreadyMounted <;>
        simp [judge, waiting, ending, Verdict.ofFailures, hsettled, hall]

/-- Unless one is refused, all entries are dispatched, each as a fresh request. -/
theorem Provider.made_eq {σ : Type} (provider : Provider σ) {ticket verbose : Bool}
    {state : σ} {docket : Docket} {entries : List Entry}
    (haccepted : (provider.dispatch ticket verbose state docket entries).refusal = none) :
    (provider.dispatch ticket verbose state docket entries).made = entries.map Request.fresh := by
  induction entries generalizing state docket with
  | nil => rfl
  | cons entry rest ih =>
      rw [dispatch] at haccepted ⊢
      cases hrefusal : (provider.request ticket verbose state docket entry).refusal with
      | some refusal => simp [hrefusal] at haccepted
      | none =>
          simp only [hrefusal] at haccepted ⊢
          rw [ih haccepted]
          rfl

/-- Mounting entries that are all accepted: they are dispatched, the provider finishes, and the channel
is drained. -/
theorem Provider.mount_of_accepted {σ : Type} (provider : Provider σ) {ticket verbose : Bool}
    {state : σ} {entries : List Entry} (hne : entries ≠ [])
    (haccepted : (provider.dispatch ticket verbose state {} entries).refusal = none) :
    let dispatched := provider.dispatch ticket verbose state {} entries
    let settled := (provider.settle dispatched.state).run verbose (Docket.party ticket verbose)
      dispatched.docket
    let drained := Settlement.drain verbose ⟨entries.length, []⟩ settled.state.channel
    (provider.mount ticket verbose state entries).state = settled.value ∧
      (provider.mount ticket verbose state entries).docket =
        { settled.state with channel := drained.unread } ∧
      (provider.mount ticket verbose state entries).acts =
        entries.map (fun entry => .dispatched (Request.fresh entry)) ++
          drained.taken.map .consumed ∧
      (provider.mount ticket verbose state entries).ending = drained.settlement.ending := by
  cases entries with
  | nil => exact absurd rfl hne
  | cons entry rest =>
      have hmade := provider.made_eq haccepted
      rw [mount]
      simp only [haccepted, hmade, List.map_map]
      exact ⟨trivial, trivial, rfl, Settlement.Drained.judge_fst _⟩

/-- Mounting entries is a path through the small steps that ends when completions are no longer
outstanding, or when there is no completion left to take. -/
theorem Provider.reaches_of_mount {σ : Type} (provider : Provider σ) {ticket verbose : Bool}
    {state : σ} {entries : List Entry} (hne : entries ≠ [])
    (haccepted : (provider.dispatch ticket verbose state {} entries).refusal = none)
    (honce : ((provider.reports ticket verbose state entries).map Prod.fst).Nodup) :
    ∃ run, (Run.start ticket entries).Reaches verbose
        (provider.reports ticket verbose state entries) run ∧
      (run.settlement.settled = true ∨ run.docket.channel = []) ∧
      run.docket = (provider.mount ticket verbose state entries).docket ∧
      (provider.mount ticket verbose state entries).acts =
        entries.map (fun entry => .dispatched (Request.fresh entry)) ++ run.taken.map .consumed ∧
      run.settlement.ending = (provider.mount ticket verbose state entries).ending := by
  let dispatched := provider.dispatch ticket verbose state {} entries
  let settle := provider.settle dispatched.state
  let settled := settle.run verbose (Docket.party ticket verbose) dispatched.docket
  have hreports : provider.reports ticket verbose state entries =
      provider.reportsOfDispatch ticket verbose state {} entries ++
        dispatched.docket.heard (settle.reports (Docket.party ticket verbose) dispatched.docket) := by
    rw [reports, haccepted]
  rw [hreports] at honce ⊢
  have hstart := Run.Accounted.start ticket entries
  have hdispatched : (Run.start ticket entries).Reaches verbose
      (provider.reportsOfDispatch ticket verbose state {} entries)
      { Run.start ticket entries with
        undispatched := entries.drop dispatched.made.length
        docket := dispatched.docket } :=
    provider.reaches_of_dispatch entries hstart rfl (Run.once_of_append honce)
  have hall : entries.drop dispatched.made.length = [] := by
    rw [provider.made_eq haccepted, List.length_map, List.drop_length]
  rw [hall] at hdispatched
  let finished : Run := { Run.start ticket entries with undispatched := [], docket := settled.state }
  have hfinished := hdispatched.trans (settle.reaches (hdispatched.accounted hstart) honce)
  have hreaches := hfinished.trans
    (Run.reaches_of_drain settled.state.channel (show finished.undispatched = [] from rfl) rfl)
  rw [List.append_nil] at hreaches
  obtain ⟨-, hdocket, hacts, hending⟩ := provider.mount_of_accepted hne haccepted
  exact ⟨_, hreaches, Settlement.settled_or_unread_eq_nil _ _ _, hdocket.symm, hacts, hending.symm⟩

theorem Settlement.ending_eq_waiting_iff (settlement : Settlement) :
    settlement.ending = .waiting ↔ settlement.settled = false := by
  cases hsettled : settlement.settled with
  | false => simp [ending, hsettled]
  | true =>
      cases hall : settlement.failures.all fun failed => failed.2.isAlreadyMounted <;>
        simp [ending, hsettled, hall]

/-- The mounting of entries waits for ever exactly if the end of some operation is not reported. -/
theorem Provider.waiting_iff {σ : Type} (provider : Provider σ) {ticket verbose : Bool}
    {state : σ} {entries : List Entry} (hne : entries ≠ [])
    (haccepted : (provider.dispatch ticket verbose state {} entries).refusal = none)
    (honce : ((provider.reports ticket verbose state entries).map Prod.fst).Nodup) :
    (provider.mount ticket verbose state entries).ending = .waiting ↔
      (provider.reports ticket verbose state entries).length < entries.length := by
  obtain ⟨run, hreaches, hstop, -, -, hending⟩ := provider.reaches_of_mount hne haccepted honce
  have haccounted := hreaches.accounted (Run.Accounted.start ticket entries)
  have hcounts := haccounted.settled_iff_counts
  have hentries := haccounted.length_entries
  have hcounted := haccounted.counted
  rw [List.nil_append] at hcounted
  rw [← hending, Settlement.ending_eq_waiting_iff]
  constructor
  · intro hwaiting
    have hempty : run.docket.channel = [] := by
      rcases hstop with hsettled | hempty
      · rw [hwaiting] at hsettled
        cases hsettled
      · exact hempty
    by_contra hall
    have hsettled := hcounts.mpr ⟨by omega, by omega, by rw [hempty]; rfl⟩
    rw [hwaiting] at hsettled
    cases hsettled
  · intro hfewer
    refine Bool.eq_false_iff.mpr fun hsettled => ?_
    obtain ⟨hlast, hended, -⟩ := hcounts.mp hsettled
    omega

/-! ### Conducts one after another

Playing two in sequence plays the first and then the second in the state that the first has left: the
exchanges, the ends reported and what is printed are those of the first followed by those of the second.
Messages change nothing but what is printed, and no conduct makes a request. -/

namespace Conduct

variable {α β τ : Type} (verbose : Bool) (party : Party τ)

theorem run_bind (first : Conduct α) (rest : α → Conduct β) (state : τ) :
    (first.bind rest).run verbose party state =
      let played := first.run verbose party state
      let after := (rest played.value).run verbose party played.state
      { after with
        exchanges := played.exchanges ++ after.exchanges
        log := played.log ++ after.log } := by
  induction first generalizing state with
  | finish value => rfl
  | say message next ih =>
      rw [bind, run, ih, run]
      simp only [List.append_assoc]
  | ask request challenge next ih =>
      rw [bind, run, ih, run]
      simp only [List.append_assoc, List.cons_append]
  | complete request status next ih =>
      rw [bind, run, ih, run]

theorem run_map (f : α → β) (conduct : Conduct α) (state : τ) :
    (conduct.map f).run verbose party state =
      let played := conduct.run verbose party state
      { played with value := f played.value } := by
  rw [map, run_bind]
  simp only [run, List.append_nil]

theorem reports_bind (first : Conduct α) (rest : α → Conduct β) (state : τ) :
    (first.bind rest).reports party state =
      first.reports party state ++
        let played := first.run verbose party state
        (rest played.value).reports party played.state := by
  induction first generalizing state with
  | finish value => rfl
  | say message next ih => exact ih state
  | ask request challenge next ih =>
      let answer := party.answer state request challenge
      exact ih answer.reply answer.state
  | complete request status next ih =>
      exact congrArg (List.cons (request, status)) (ih (party.complete state request status))

theorem run_sayAll (messages : List Console.Message) (next : Conduct α) (state : τ) :
    (sayAll messages next).run verbose party state =
      let played := next.run verbose party state
      { played with log := messages.flatMap (Console.printed verbose) ++ played.log } := by
  induction messages with
  | nil => rfl
  | cons message rest ih =>
      rw [sayAll, List.foldr_cons, run, ← sayAll, ih]
      simp only [List.flatMap_cons, List.append_assoc]

theorem reports_sayAll (messages : List Console.Message) (next : Conduct α) (state : τ) :
    (sayAll messages next).reports party state = next.reports party state := by
  induction messages with
  | nil => rfl
  | cons message rest ih => exact ih

/-- Whatever is done with a docket, no request is added. -/
theorem length_run (ticket : Bool) (conduct : Conduct α) (docket : Docket) :
    (conduct.run verbose (Docket.party ticket verbose) docket).state.requests.length =
      docket.requests.length := by
  induction conduct generalizing docket with
  | finish value => rfl
  | say message next ih => exact ih docket
  | ask request challenge next ih =>
      rw [run, ih]
      exact docket.length_challenge ticket verbose request challenge
  | complete request status next ih =>
      rw [run, ih]
      exact docket.length_complete request status

end Conduct

end SessionMounts.Mounting
