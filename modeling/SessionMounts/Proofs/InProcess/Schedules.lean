import SessionMounts.Proofs.InProcess.Serving

/-!
Schedules of the two threads. Serving every request at once, before the next is made, is one of them
(`reaches_dispatched`); and whatever has been done so far, the threads can go on until all entries have
been settled (`exists_settled`), so they never wait for one another in vain.
-/

namespace SessionMounts.InProcess

open Auth (Challenge Reply)
open Mounting

namespace Loop

variable {verbose : Bool} {loop middle next : Loop}

/-- The threads can go on from one state to another. -/
def Reaches (verbose : Bool) (loop next : Loop) : Prop :=
  ∃ actions, loop.steps? verbose actions = some next

theorem steps?_append (front back : List Action) :
    loop.steps? verbose (front ++ back) =
      (loop.steps? verbose front).bind fun middle => middle.steps? verbose back := by
  induction front generalizing loop with
  | nil => rfl
  | cons action rest ih =>
      rw [List.cons_append, steps?, steps?]
      cases loop.step? verbose action with
      | none => rfl
      | some middle => exact ih

namespace Reaches

theorem refl (verbose : Bool) (loop : Loop) : Reaches verbose loop loop := ⟨[], rfl⟩

theorem trans (hfront : Reaches verbose loop middle) (hback : Reaches verbose middle next) :
    Reaches verbose loop next := by
  obtain ⟨front, hfront⟩ := hfront
  obtain ⟨back, hback⟩ := hback
  refine ⟨front ++ back, ?_⟩
  rw [steps?_append, hfront]
  exact hback

theorem of_step {action : Action} (h : loop.step? verbose action = some next) :
    Reaches verbose loop next := ⟨[action], by rw [steps?, h]; rfl⟩

end Reaches

/-- What was being served before does not matter for what is kept. -/
theorem keep_serving (loop : Loop) (serving : Option (Conduct (Started State)))
    (conduct : Conduct (Started State)) :
    ({ loop with serving := serving }).keep conduct = loop.keep conduct := by
  cases conduct <;> rfl

/-- The background thread can come to the end of what it has been given to do. -/
theorem reaches_keep (verbose : Bool) (conduct : Conduct (Started State)) (loop : Loop) :
    let played := conduct.run verbose (Docket.party loop.run.ticket verbose) loop.run.docket
    (loop.keep conduct).Reaches verbose
      { loop.enter played.state with
        library := played.value.state
        serving := none } := by
  induction conduct generalizing loop with
  | finish started => exact .refl verbose _
  | say message next ih =>
      have hturn : (loop.keep (.say message next)).step? verbose .turn = some (loop.keep next) :=
        congrArg some (keep_serving loop _ next)
      exact .trans (.of_step hturn) (ih loop)
  | ask number challenge next ih =>
      let answer := loop.run.docket.challenge loop.run.ticket verbose number challenge
      have hturn : (loop.keep (.ask number challenge next)).step? verbose .turn =
          some ((loop.enter answer.state).keep (next answer.reply)) :=
        congrArg some (keep_serving (loop.enter answer.state) _ (next answer.reply))
      exact .trans (.of_step hturn) (ih answer.reply (loop.enter answer.state))
  | complete number status next ih =>
      let ended := loop.enter (loop.run.docket.complete number status)
      have hturn : (loop.keep (.complete number status next)).step? verbose .turn =
          some (ended.keep next) := congrArg some (keep_serving ended _ next)
      exact .trans (.of_step hturn) (ih ended)

theorem refusal_askAll {τ : Type} (party : Party τ) (number : Nat) (challenges : List Challenge)
    {rest : List Reply → Conduct (Started State)}
    (hrest : ∀ replies heard, ((rest replies).run verbose party heard).value.refusal = none)
    (heard : τ) :
    ((Conduct.askAll number challenges rest).run verbose party heard).value.refusal = none := by
  induction challenges generalizing rest heard with
  | nil => exact hrest [] heard
  | cons challenge others ih =>
      exact ih (fun replies heard => hrest (_ :: replies) heard) _

/-- The library refuses no request. -/
theorem refusal_request (ticket verbose : Bool) (library : State) (docket : Docket) (entry : Entry) :
    (provider.request ticket verbose library docket entry).refusal = none := by
  have hserve (number : Nat) (request : Request) (heard : Docket) :
      ((serve library number request).run verbose (Docket.party ticket verbose)
        heard).value.refusal = none := by
    rw [serve, Conduct.run_sayAll]
    exact refusal_askAll _ number _ (fun _ _ => rfl) heard
  exact hserve _ _ _

section Sequential

variable {entry : Entry} {rest : List Entry}

/-- A request can be served before the next is made. -/
theorem reaches_request (verbose : Bool) (hfree : loop.serving = none) (hqueue : loop.queue = [])
    (hrest : loop.run.undispatched = entry :: rest) :
    let first := provider.request loop.run.ticket verbose loop.library loop.run.docket entry
    loop.Reaches verbose
      { loop with
        run := { loop.run with undispatched := rest, docket := first.docket }
        library := first.state } := by
  intro first
  let number := loop.run.docket.requests.length
  let handed : Loop :=
    { loop with
      run := { loop.run with undispatched := rest, docket := loop.run.docket.openRequest entry }
      queue := [(entry, number)] }
  have hdispatch : loop.step? verbose .dispatch = some handed := by
    simp only [step?, hrest, hqueue, List.nil_append, handed, number]
  have hturn : handed.step? verbose .turn =
      some (({ handed with queue := [] }).keep (serve loop.library number (.fresh entry))) := by
    simp only [step?, handed, hfree]
  have hserved := reaches_keep verbose (serve loop.library number (.fresh entry))
    { handed with queue := [] }
  have hreaches := (Reaches.of_step hdispatch).trans ((Reaches.of_step hturn).trans hserved)
  obtain ⟨run, library, queue, serving⟩ := loop
  cases hfree
  cases hqueue
  exact hreaches

/-- So can all requests that are still to be made. -/
theorem reaches_dispatched (verbose : Bool) (hfree : loop.serving = none) (hqueue : loop.queue = [])
    (hrest : loop.run.undispatched = rest) :
    let dispatched := provider.dispatch loop.run.ticket verbose loop.library loop.run.docket rest
    dispatched.refusal = none ∧
      loop.Reaches verbose
        { loop with
          run := { loop.run with undispatched := [], docket := dispatched.docket }
          library := dispatched.state } := by
  induction rest generalizing loop with
  | nil =>
      obtain ⟨⟨undispatched, ticket, docket, settlement, taken⟩, library, queue, serving⟩ := loop
      cases hrest
      exact ⟨rfl, .refl verbose _⟩
  | cons entry rest ih =>
      let first := provider.request loop.run.ticket verbose loop.library loop.run.docket entry
      let served : Loop :=
        { loop with
          run := { loop.run with undispatched := rest, docket := first.docket }
          library := first.state }
      have haccepted := refusal_request loop.run.ticket verbose loop.library loop.run.docket entry
      obtain ⟨hothers, hreaches⟩ := ih (show served.serving = none from hfree)
        (show served.queue = [] from hqueue) (show served.run.undispatched = rest from rfl)
      rw [Provider.dispatch]
      simp only [haccepted]
      exact ⟨hothers, (reaches_request verbose hfree hqueue hrest).trans hreaches⟩

end Sequential

/-- What the main thread does with completions does not concern the background thread. -/
theorem steps?_track (count : Nat) (loop : Loop) :
    loop.steps? verbose (List.replicate count .track) =
      (loop.run.steps? verbose (List.replicate count .track)).map fun run =>
        { loop with run := run } := by
  induction count generalizing loop with
  | zero => rfl
  | succ count ih =>
      rw [List.replicate_succ, List.replicate_succ, steps?, Run.steps?, step?]
      cases loop.run.step? verbose .track with
      | none => rfl
      | some run => exact ih { loop with run := run }

/-- Once all requests have been made, the main thread can drain the channel. -/
theorem reaches_drained (verbose : Bool) (hlast : loop.run.undispatched = []) :
    let drained := loop.run.settlement.drain verbose loop.run.docket.channel
    loop.Reaches verbose
      { loop with
        run := { loop.run with
          docket := { loop.run.docket with channel := drained.unread }
          settlement := drained.settlement
          taken := loop.run.taken ++ drained.taken } } := by
  intro drained
  refine ⟨List.replicate drained.taken.length .track, ?_⟩
  rw [steps?_track, Run.steps?_drain loop.run.docket.channel hlast rfl]
  rfl

/-- The mounting of entries is a schedule in which each request is served before the next is made. -/
theorem reaches_mount (ticket verbose : Bool) (library : State) {entries : List Entry}
    (hne : entries ≠ []) :
    let mounted := provider.mount ticket verbose library entries
    ∃ last : Loop, (start ticket library entries).Reaches verbose last ∧
      last.serving = none ∧ last.queue = [] ∧ last.run.undispatched = [] ∧
      (last.run.settlement.settled = true ∨ last.run.docket.channel = []) ∧
      last.run.docket = mounted.docket ∧ last.library = mounted.state ∧
      last.run.settlement.ending = mounted.ending := by
  let dispatched := provider.dispatch ticket verbose library {} entries
  let served : Loop :=
    { start ticket library entries with
      run := { Run.start ticket entries with undispatched := [], docket := dispatched.docket }
      library := dispatched.state }
  have hfree : (start ticket library entries).serving = none := rfl
  have hserved : dispatched.refusal = none ∧
      (start ticket library entries).Reaches verbose served := reaches_dispatched verbose hfree rfl rfl
  have hdrained := reaches_drained verbose (show served.run.undispatched = [] from rfl)
  obtain ⟨hstate, hdocket, -, hending⟩ := provider.mount_of_accepted hne hserved.1
  exact ⟨_, hserved.2.trans hdrained, rfl, rfl, rfl,
    Settlement.settled_or_unread_eq_nil verbose _ _, hdocket.symm, hstate.symm, hending.symm⟩

/-- The background thread can come to the end of what it is doing. -/
theorem exists_free (verbose : Bool) (loop : Loop) :
    ∃ free : Loop, loop.Reaches verbose free ∧ free.serving = none ∧ free.queue = loop.queue ∧
      free.run.undispatched = loop.run.undispatched := by
  obtain ⟨run, library, queue, serving⟩ := loop
  cases serving with
  | none => exact ⟨_, .refl verbose _, rfl, rfl, rfl⟩
  | some conduct =>
      let loop : Loop := ⟨run, library, queue, none⟩
      cases conduct with
      | finish started =>
          have hturn : ({ loop with serving := some (.finish started) }).step? verbose .turn =
              some { loop with library := started.state } := rfl
          exact ⟨_, .of_step hturn, rfl, rfl, rfl⟩
      | say message next => exact ⟨_, reaches_keep verbose (.say message next) loop, rfl, rfl, rfl⟩
      | ask number challenge next =>
          exact ⟨_, reaches_keep verbose (.ask number challenge next) loop, rfl, rfl, rfl⟩
      | complete number status next =>
          exact ⟨_, reaches_keep verbose (.complete number status next) loop, rfl, rfl, rfl⟩

/-- It can come to the end of all that has been handed over to it. -/
theorem exists_idle (verbose : Bool) {queue : List (Entry × Nat)} {loop : Loop}
    (hqueue : loop.queue = queue) :
    ∃ idle : Loop, loop.Reaches verbose idle ∧ idle.serving = none ∧ idle.queue = [] ∧
      idle.run.undispatched = loop.run.undispatched := by
  induction queue generalizing loop with
  | nil =>
      obtain ⟨free, hfree, hserving, hkept, hsame⟩ := exists_free verbose loop
      exact ⟨free, hfree, hserving, hkept.trans hqueue, hsame⟩
  | cons place rest ih =>
      obtain ⟨free, hfree, hserving, hkept, hsame⟩ := exists_free verbose loop
      let begun := ({ free with queue := rest }).keep
        (serve free.library place.2 (.fresh place.1))
      have hturn : free.step? verbose .turn = some begun := by
        simp only [step?, hserving, hkept, hqueue, begun]
      have hbegun : begun.queue = rest ∧ begun.run = free.run := by
        simp only [begun, serve_eq_remainder, keep_remainder, and_self]
      obtain ⟨idle, hidle, hstill, hempty, hundispatched⟩ := ih hbegun.1
      refine ⟨idle, hfree.trans ((Reaches.of_step hturn).trans hidle), hstill, hempty, ?_⟩
      rw [hundispatched, hbegun.2, hsame]

/-- Both threads can come to the end of all that is to be done. -/
theorem exists_quiet (verbose : Bool) (loop : Loop) :
    ∃ quiet : Loop, loop.Reaches verbose quiet ∧ quiet.serving = none ∧ quiet.queue = [] ∧
      quiet.run.undispatched = [] := by
  obtain ⟨idle, hidle, hserving, hqueue, -⟩ := exists_idle verbose (Eq.refl loop.queue)
  obtain ⟨-, hdispatched⟩ := reaches_dispatched verbose hserving hqueue rfl
  exact ⟨_, hidle.trans hdispatched, hserving, hqueue, rfl⟩

section Settled

variable {library : State} {entries : List Entry} {ticket : Bool}

/-- When nothing is left to be done, all operations have ended. -/
theorem Sound.ended_of_quiet (h : Sound library entries ticket verbose loop)
    (hserving : loop.serving = none) (hqueue : loop.queue = [])
    (hlast : loop.run.undispatched = []) :
    Stands library entries ticket verbose entries.length entries.length loop := by
  cases h with
  | busy stands listed found asked serving => cases hserving.symm.trans serving
  | @free done stands free =>
      -- an empty queue leaves no place between the served requests and the last entry
      have hmade := stands.accounted.length_entries
      rw [hlast, List.length_nil, Nat.add_zero] at hmade
      have hqueued := congrArg List.length (stands.tended.queued.symm.trans hqueue)
      simp only [List.length_drop, List.length_take, List.length_zipIdx, List.length_nil] at hqueued
      have horder := stands.tended.order.2
      have hdone : done = entries.length := by omega
      exact hdone ▸ stands

/-- When all completions have been taken, all operations have ended. -/
theorem Sound.ended_of_settled (h : Sound library entries ticket verbose loop)
    (hsettled : loop.run.settlement.settled = true) :
    Stands library entries ticket verbose entries.length entries.length loop := by
  have hall {done begun : Nat} (stands : Stands library entries ticket verbose done begun loop) :
      entries.length ≤ done ∧ begun ≤ entries.length := by
    constructor
    · by_contra hfewer
      obtain ⟨status, hreport⟩ := (stands.accounted.settled_iff.mp hsettled).1 done (by omega)
      obtain ⟨number, hnumber, hsame⟩ := List.mem_map.mp hreport
      cases hsame
      exact absurd (List.mem_range.mp hnumber) (Nat.lt_irrefl done)
    · have hmade := stands.accounted.length_entries
      have horder := stands.tended.order.2
      omega
  cases h with
  | @free done stands free =>
      have hdone : done = entries.length := by
        have hboth := hall stands
        omega
      exact hdone ▸ stands
  | busy stands listed found asked serving =>
      have hboth := hall stands
      omega

theorem Stands.settled_of_empty
    (h : Stands library entries ticket verbose entries.length entries.length loop)
    (hempty : loop.run.docket.channel = []) : loop.run.settlement.settled = true := by
  refine h.accounted.settled_iff.mpr ⟨?_, hempty⟩
  intro number hlt
  exact ⟨_, List.mem_map.mpr ⟨number, List.mem_range.mpr hlt, rfl⟩⟩

/-- Whatever has been done so far, the threads can go on until all entries have been settled. -/
theorem Sound.exists_settled (h : Sound library entries ticket verbose loop) :
    ∃ last : Loop, loop.Reaches verbose last ∧ last.run.settlement.settled = true := by
  obtain ⟨quiet, hquiet, hserving, hqueue, hlast⟩ := exists_quiet verbose loop
  have hdrained := reaches_drained verbose hlast
  obtain ⟨actions, hactions⟩ := hquiet.trans hdrained
  refine ⟨_, ⟨actions, hactions⟩, ?_⟩
  rcases Settlement.settled_or_unread_eq_nil verbose quiet.run.settlement quiet.run.docket.channel with
    hsettled | hempty
  · exact hsettled
  · exact ((h.steps hactions).ended_of_quiet hserving hqueue hlast).settled_of_empty hempty

end Settled

end Loop

end SessionMounts.InProcess
