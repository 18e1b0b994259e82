import SessionMounts.Mounting.Scripted
import SessionMounts.Proofs.Mounting.Reports
import SessionMounts.Proofs.MountsFile.Handling

/-!
A provider that refuses a request. `Accepts` says that it accepts the requests before; it may report ends
at any moment, of these requests or of the refused one. Dispatching stops at the refusal, with the requests
up to this one made and the completions so far on the channel (`channel_dispatch`). Mounting takes none of
them: it ends with the refusal, and the instance of the provider is closed (`refusal_ends_the_run`).
-/

namespace SessionMounts.Mounting

/-- A provider accepts the requests of entries one after another, and comes from one state, with one docket,
to another. -/
inductive Provider.Accepts {σ : Type} (provider : Provider σ) (ticket verbose : Bool) :
    σ → Docket → List Entry → σ → Docket → Prop where
  | nothing (state : σ) (docket : Docket) : provider.Accepts ticket verbose state docket [] state docket
  | request {state last : σ} {docket lastDocket : Docket} {entry : Entry} {rest : List Entry}
      (haccepted : (provider.request ticket verbose state docket entry).refusal = none)
      (hrest : provider.Accepts ticket verbose
        (provider.request ticket verbose state docket entry).state
        (provider.request ticket verbose state docket entry).docket rest last lastDocket) :
      provider.Accepts ticket verbose state docket (entry :: rest) last lastDocket

section Channel

variable {α σ : Type} (ticket verbose : Bool)

/-- What a conduct does leaves the entries of the requests, and adds to the channel the completions that
tell of the ends it reports. -/
theorem Conduct.entries_run (conduct : Conduct α) (docket : Docket) :
    (conduct.run verbose (Docket.party ticket verbose) docket).state.requests.map Request.entry =
      docket.requests.map Request.entry := by
  induction conduct generalizing docket with
  | finish value => rfl
  | say message next ih => exact ih docket
  | ask request challenge next ih =>
      exact (ih _ _).trans (Docket.entries_challenge ticket verbose docket request challenge)
  | complete request status next ih =>
      exact (ih _).trans (Docket.entries_complete docket request status)

/-- The end of an operation puts a completion on the channel if the request has been made. -/
theorem Docket.channel_complete (docket : Docket) (number : Nat) (status : Status) :
    (docket.complete number status).channel.map some = docket.channel.map some ++
      (docket.heard [(number, status)]).map
        (Run.announced? (docket.requests.map Request.entry)) := by
  by_cases hmade : number < docket.requests.length
  · have hfound := List.getElem?_eq_getElem hmade
    rw [complete_of_found status hfound, List.map_append]
    simp [heard, hmade, Run.announced?]
  · rw [complete_of_unmade status hmade]
    simp [heard, hmade]

theorem Conduct.channel_run (conduct : Conduct α) (docket : Docket) :
    (conduct.run verbose (Docket.party ticket verbose) docket).state.channel.map some =
      docket.channel.map some ++
        (docket.heard (conduct.reports (Docket.party ticket verbose) docket)).map
          (Run.announced? (docket.requests.map Request.entry)) := by
  induction conduct generalizing docket with
  | finish value => simp [run, reports, Docket.heard]
  | say message next ih => exact ih docket
  | ask request challenge next ih =>
      let asked := docket.challenge ticket verbose request challenge
      have hlength : asked.state.requests.length = docket.requests.length :=
        docket.length_challenge ticket verbose request challenge
      have hentries : asked.state.requests.map Request.entry = docket.requests.map Request.entry :=
        Docket.entries_challenge ticket verbose docket request challenge
      have hchannel : asked.state.channel = docket.channel :=
        Docket.channel_challenge ticket verbose docket request challenge
      have hrest := ih asked.reply asked.state
      rw [hentries, hchannel, Docket.heard_congr hlength] at hrest
      exact hrest
  | complete request status next ih =>
      let reported := docket.complete request status
      have hlength : reported.requests.length = docket.requests.length :=
        docket.length_complete request status
      have hrest := ih reported
      rw [Docket.entries_complete, Docket.channel_complete, Docket.heard_congr hlength,
        List.append_assoc, ← List.map_append, ← Docket.heard_append] at hrest
      exact hrest

/-- The completions that tell of reports which were heard do not depend on the entries still to come. -/
theorem Docket.announced_heard (docket : Docket) (reports : List (Nat × Status))
    (more : List Entry) :
    (docket.heard reports).map (Run.announced? (docket.requests.map Request.entry ++ more)) =
      (docket.heard reports).map (Run.announced? (docket.requests.map Request.entry)) := by
  apply List.map_congr_left
  intro report hheard
  have hmade := of_decide_eq_true (List.mem_filter.mp hheard).2
  rw [Run.announced?, List.getElem?_append_left (by simpa using hmade), Run.announced?]

namespace Provider

variable (provider : Provider σ) (state : σ) (docket : Docket)

theorem entries_request (entry : Entry) :
    (provider.request ticket verbose state docket entry).docket.requests.map Request.entry =
      docket.requests.map Request.entry ++ [entry] := by
  rw [request, Conduct.entries_run, Docket.openRequest, List.map_append]
  rfl

theorem channel_request (entry : Entry) (rest : List Entry) :
    let opened := docket.openRequest entry
    let conduct := provider.start state docket.requests.length (Request.fresh entry)
    (provider.request ticket verbose state docket entry).docket.channel.map some =
      docket.channel.map some ++
        (opened.heard (conduct.reports (Docket.party ticket verbose) opened)).map
          (Run.announced? (docket.requests.map Request.entry ++ entry :: rest)) := by
  intro opened conduct
  -- a conduct is heard only for requests made so far, so the entries after them may be left out
  have hentries : docket.requests.map Request.entry ++ entry :: rest =
      opened.requests.map Request.entry ++ rest := by
    simp [opened, Docket.openRequest, Request.fresh]
  rw [hentries, Docket.announced_heard]
  exact Conduct.channel_run ticket verbose conduct opened

/-- The requests made while entries are dispatched are added to the docket, and nothing else is. -/
theorem entries_dispatch (entries : List Entry) :
    let dispatched := provider.dispatch ticket verbose state docket entries
    dispatched.docket.requests.map Request.entry =
      docket.requests.map Request.entry ++ dispatched.made.map Request.entry := by
  induction entries generalizing state docket with
  | nil => simp [dispatch]
  | cons entry rest ih =>
      have hfirst := provider.entries_request ticket verbose state docket entry
      rw [dispatch]
      split
      · exact hfirst
      · simp only [ih, hfirst, List.append_assoc]
        rfl

/-- Dispatching leaves on the channel the completions that tell of the ends reported meanwhile, each with
the location of its own entry. -/
theorem channel_dispatch (entries : List Entry) :
    (provider.dispatch ticket verbose state docket entries).docket.channel.map some =
      docket.channel.map some ++
        (provider.reportsOfDispatch ticket verbose state docket entries).map
          (Run.announced? (docket.requests.map Request.entry ++ entries)) := by
  induction entries generalizing state docket with
  | nil => simp [dispatch, reportsOfDispatch]
  | cons entry rest ih =>
      have hfirst := provider.channel_request ticket verbose state docket entry rest
      rw [dispatch, reportsOfDispatch]
      cases hrefusal : (provider.request ticket verbose state docket entry).refusal with
      | some refusal => simpa using hfirst
      | none =>
          simp only [ih, hfirst, provider.entries_request ticket verbose state docket entry,
            List.append_assoc, List.map_append, List.singleton_append]

variable {provider state docket}

/-- Entries that are accepted are dispatched before the others. -/
theorem Accepts.dispatch_append {ticket verbose : Bool} {accepted : List Entry} {last : σ}
    {lastDocket : Docket}
    (h : provider.Accepts ticket verbose state docket accepted last lastDocket) (rest : List Entry) :
    let others := provider.dispatch ticket verbose last lastDocket rest
    let dispatched := provider.dispatch ticket verbose state docket (accepted ++ rest)
    dispatched.refusal = others.refusal ∧
      dispatched.made = accepted.map Request.fresh ++ others.made := by
  induction h with
  | nothing => exact ⟨rfl, rfl⟩
  | request haccepted hrest ih =>
      obtain ⟨hrefusal, hmade⟩ := ih
      simp only [List.cons_append, dispatch, haccepted]
      exact ⟨hrefusal, congrArg (_ :: ·) hmade⟩

/-- A request that is refused is the last one to be made. -/
theorem dispatch_of_refused {ticket verbose : Bool} {entry : Entry} (rest : List Entry)
    {refusal : Refusal}
    (h : (provider.request ticket verbose state docket entry).refusal = some refusal) :
    let dispatched := provider.dispatch ticket verbose state docket (entry :: rest)
    dispatched.refusal = some refusal ∧ dispatched.made = [Request.fresh entry] := by
  simp only [dispatch, h]
  exact ⟨trivial, rfl⟩

/-- A run whose dispatch is refused ends at once. -/
theorem mount_of_refused {ticket verbose : Bool} {entries : List Entry} {refusal : Refusal}
    (h : (provider.dispatch ticket verbose state {} entries).refusal = some refusal) :
    let dispatched := provider.dispatch ticket verbose state {} entries
    let mounted := provider.mount ticket verbose state entries
    mounted.ending = .refused refusal ∧ mounted.acts = dispatched.made.map .dispatched ∧
      mounted.docket = dispatched.docket ∧ mounted.state = dispatched.state := by
  cases entries with
  | nil => cases h
  | cons entry rest =>
      simp only [mount, h]
      exact ⟨trivial, trivial, trivial, trivial⟩

end Provider

end Channel

/-- A provider that refuses a request ends the run. If it accepts the requests of the entries before some
number, reporting any ends at any moment or none, and refuses the one of that number, exactly the requests
up to this one are made, in the order of the entries, each with no flags and with a gate of its own that
has the flag of its entry and remembers nothing. What is then on the channel are the completions of the
ends reported so far, each with the location of its own entry. Mounting the entries ends with this refusal and
takes no completion, whatever failures are among them; the instance of the provider is closed once, at the
end; and so it goes with the mounts file that lists these entries. -/
theorem refusal_ends_the_run {σ : Type} {provider : Provider σ} {ticket verbose : Bool}
    {state last : σ} {docket : Docket} {entries : List Entry} {number : Nat} {entry : Entry}
    {refusal : Refusal} (hentry : entries[number]? = some entry)
    (haccepts : provider.Accepts ticket verbose state {} (entries.take number) last docket)
    (hrefuses : (provider.request ticket verbose last docket entry).refusal = some refusal) :
    let dispatched := provider.dispatch ticket verbose state {} entries
    let mounted := provider.mount ticket verbose state entries
    let acts := .built :: dispatched.made.map .dispatched ++ [.closed]
    dispatched.refusal = some refusal ∧
    dispatched.made = (entries.take (number + 1)).map (fun entry =>
      { entry := entry, flags := 0, gate := ⟨entry.anonymous, .unset⟩, exchanges := [],
        reports := [] }) ∧
    dispatched.docket.requests.map Request.entry = entries.take (number + 1) ∧
    dispatched.docket.channel.map some =
      (provider.reportsOfDispatch ticket verbose state {} entries).map (fun report =>
        entries[report.1]?.map fun entry => ⟨entry.location, report.2⟩) ∧
    mounted.ending = .refused refusal ∧ mounted.acts = dispatched.made.map .dispatched ∧
    mounted.docket = dispatched.docket ∧
    ∀ initial, provider.build initial = state →
      (let once := MountsFile.mountOnce provider ticket verbose initial entries
      once.ending = .refused refusal ∧ once.acts = acts ∧
        once.state = provider.close mounted.state ∧ once.docket = dispatched.docket) ∧
      ∀ (backends : Backends σ) (given : Option Backend) (environment : Environment)
        (files : FileSystem) (path : String), environment.ticket = ticket →
        backends.Named (requestedName given environment) provider →
        (MountsFile.read verbose files path).1 = .ok entries →
        let handled := MountsFile.mountSelecting backends (given.map Backend.name) environment
          verbose files path initial
        handled.result = .error (.refused refusal) ∧ handled.acts = acts ∧
          handled.state = provider.close mounted.state := by
  intro dispatched mounted acts
  obtain ⟨hlt, hget⟩ := List.getElem?_eq_some_iff.mp hentry
  have hsplit : entries.take number ++ entry :: entries.drop (number + 1) = entries := by
    rw [← hget, List.getElem_cons_drop, List.take_append_drop]
  obtain ⟨hrefusal, hmade⟩ := haccepts.dispatch_append (entry :: entries.drop (number + 1))
  obtain ⟨hrefused, hlast⟩ := Provider.dispatch_of_refused (entries.drop (number + 1)) hrefuses
  rw [hsplit] at hrefusal hmade
  have hdispatched : dispatched.refusal = some refusal := hrefusal.trans hrefused
  have hfresh : dispatched.made = (entries.take (number + 1)).map Request.fresh := by
    rw [List.take_add_one, hentry, List.map_append]
    exact hmade.trans (congrArg (_ ++ ·) hlast)
  obtain ⟨hending, hacts, hdocket, -⟩ := Provider.mount_of_refused hdispatched
  refine ⟨hdispatched, hfresh, ?_, ?_, hending, hacts, hdocket, ?_⟩
  · have hentries : dispatched.docket.requests.map Request.entry =
        dispatched.made.map Request.entry :=
      provider.entries_dispatch ticket verbose state {} entries
    rw [hentries, hfresh, List.map_map]
    exact List.map_id _
  · exact provider.channel_dispatch ticket verbose state {} entries
  · rintro initial rfl
    obtain ⟨honce, hmadeOnce, hclosed, hleft⟩ := MountsFile.mountOnce_of_refused hending
    rw [hacts] at hmadeOnce
    refine ⟨⟨honce, hmadeOnce, hclosed, hleft.trans hdocket⟩, ?_⟩
    rintro backends given environment files path rfl hnamed hread
    have hne : entries ≠ [] := by
      rintro rfl
      cases hentry
    obtain ⟨hresult, hdone, hstate⟩ := MountsFile.mountSelecting_of_named hread hne hnamed
    rw [honce] at hresult
    exact ⟨hresult, hdone.trans hmadeOnce, hstate.trans hclosed⟩

/-- A provider that holds back the ends of its first two operations, reports the second of them only, and
refuses the third request. -/
def balkingPlans : Scripted.State where
  plans := [.serve [] .done,
    .serve [{ anonymousSupported := true }] (.failed ⟨Failure.failed, "timed out"⟩),
    .refuse "no more", .serve [] .done]
  release := some ⟨2, [1]⟩

/-- The third of four requests is refused; the failure of the second stays on the channel, nobody waits for
the end of the first, and the fourth is not made. -/
theorem third_request_is_refused :
    let entries : List Entry :=
      [⟨"smb://h/a", false⟩, ⟨"smb://h/b", true⟩, ⟨"smb://h/a", true⟩, ⟨"smb://h/d", false⟩]
    let dispatched := Scripted.provider.dispatch false true balkingPlans {} entries
    let once := MountsFile.mountOnce Scripted.provider false true balkingPlans entries
    dispatched.made = [Request.fresh ⟨"smb://h/a", false⟩, Request.fresh ⟨"smb://h/b", true⟩,
      Request.fresh ⟨"smb://h/a", true⟩] ∧
    dispatched.docket.channel.map some =
      [some ⟨"smb://h/b", .failed ⟨Failure.failed, "timed out"⟩⟩] ∧
    once.ending = .refused (.fault "no more") ∧
    once.acts = [.built, .dispatched (Request.fresh ⟨"smb://h/a", false⟩),
      .dispatched (Request.fresh ⟨"smb://h/b", true⟩),
      .dispatched (Request.fresh ⟨"smb://h/a", true⟩), .closed] := by
  intro entries dispatched once
  have haccepts : Scripted.provider.Accepts false true balkingPlans {} (entries.take 2) _ _ :=
    .request (by decide +kernel) (.request (by decide +kernel) (.nothing _ _))
  obtain ⟨-, hmade, -, hchannel, -, -, -, hclosed⟩ :=
    refusal_ends_the_run (show entries[2]? = some _ from rfl) haccepts
      (show _ = some (.fault "no more") by decide +kernel)
  obtain ⟨⟨hending, hacts, -⟩, -⟩ := hclosed balkingPlans rfl
  rw [hmade] at hacts
  exact ⟨hmade, hchannel.trans (by decide +kernel), hending, hacts⟩

end SessionMounts.Mounting
