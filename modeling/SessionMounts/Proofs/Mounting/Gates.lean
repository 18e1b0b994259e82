import SessionMounts.Proofs.Mounting.Accounting
import SessionMounts.Session

/-!
The gates of a mounting run. Every request has a gate of its own, which answers by its entry's flag, the
challenges put to this request so far, and whether a ticket cache is named at the moment (`replyTo`).
`Request.Follows` states this of one request; a challenge keeps it for the request that it is put to,
and nothing else touches a gate, so it holds of every request in every state that a run can reach
(`gates_are_one_shot_and_isolated`), whatever happens to the others in between.
-/

namespace SessionMounts

open Auth (Challenge Reply Gate)

namespace Auth.Gate

variable {gate : Gate} {challenge : Challenge} (ticket verbose : Bool)

/-- An anonymous gate accepts an offer of anonymous access once, and remembers it. -/
theorem answer_of_offered (h : gate.anonymous = true ∧ challenge.anonymousSupported = true) :
    (gate.answer ticket verbose challenge).reply =
        (if gate.attempt = .asked then .aborted else .handled) ∧
      (gate.answer ticket verbose challenge).state = { gate with attempt := .asked } := by
  obtain ⟨anonymous, attempt⟩ := gate
  obtain ⟨rfl, hoffered⟩ := h
  cases attempt <;> simp [answer, hoffered]

/-- Otherwise a ticket decides, and the gate remembers nothing. -/
theorem answer_of_not_offered
    (h : ¬(gate.anonymous = true ∧ challenge.anonymousSupported = true)) :
    (gate.answer ticket verbose challenge).reply = (if ticket = true then .handled else .aborted) ∧
      (gate.answer ticket verbose challenge).state = gate := by
  rw [← Bool.and_eq_true] at h
  rw [answer, if_neg h]
  cases ticket <;> exact ⟨rfl, rfl⟩

end Auth.Gate

namespace Mounting

/-- The reply to a challenge after earlier ones. An anonymous request that is offered anonymous access
accepts the first offer only; otherwise a ticket decides. -/
def replyTo (anonymous : Bool) (earlier : List Challenge) (ticket : Bool) (challenge : Challenge) :
    Reply :=
  if anonymous = true ∧ challenge.anonymousSupported = true then
    if ∃ before ∈ earlier, before.anonymousSupported = true then .aborted else .handled
  else if ticket = true then .handled
  else .aborted

theorem replyTo_ne_unhandled (anonymous : Bool) (earlier : List Challenge) (ticket : Bool)
    (challenge : Challenge) : replyTo anonymous earlier ticket challenge ≠ .unhandled := by
  unfold replyTo
  split
  · split <;> rintro ⟨⟩
  · split <;> rintro ⟨⟩

/-- The exchanges that come of challenges, each put while a ticket cache is named or not. -/
def exchangesOf (anonymous : Bool) (earlier : List Challenge) :
    List (Challenge × Bool) → List (Challenge × Reply)
  | [] => []
  | (challenge, ticket) :: rest =>
    (challenge, replyTo anonymous earlier ticket challenge) ::
      exchangesOf anonymous (earlier ++ [challenge]) rest

section Exchanges

variable (anonymous : Bool) (earlier : List Challenge) (front back : List (Challenge × Bool))

theorem exchangesOf_append :
    exchangesOf anonymous earlier (front ++ back) =
      exchangesOf anonymous earlier front ++
        exchangesOf anonymous (earlier ++ front.map Prod.fst) back := by
  induction front generalizing earlier with
  | nil => simp [exchangesOf]
  | cons put rest ih => simp [exchangesOf, ih]

theorem length_exchangesOf : (exchangesOf anonymous earlier front).length = front.length := by
  induction front generalizing earlier with
  | nil => rfl
  | cons put rest ih => rw [exchangesOf, List.length_cons, ih, List.length_cons]

theorem getElem?_exchangesOf (place : Nat) :
    (exchangesOf anonymous earlier front)[place]? =
      front[place]?.map fun put => (put.1,
        replyTo anonymous (earlier ++ (front.take place).map Prod.fst) put.2 put.1) := by
  induction front generalizing earlier place with
  | nil => rfl
  | cons put rest ih =>
      cases place with
      | zero => simp [exchangesOf]
      | succ place => simp [exchangesOf, ih]

end Exchanges

/-- A request whose gate and exchanges are what the challenges put to it make of them. -/
structure Request.Follows (request : Request) (puts : List (Challenge × Bool)) : Prop where
  flag : request.gate.anonymous = request.entry.anonymous
  attempt : request.gate.attempt = .asked ↔
    request.entry.anonymous = true ∧ ∃ put ∈ puts, put.1.anonymousSupported = true
  exchanges : request.exchanges = exchangesOf request.entry.anonymous [] puts

namespace Request.Follows

theorem fresh (entry : Entry) : (Request.fresh entry).Follows [] where
  flag := rfl
  attempt := by simp [Request.fresh]
  exchanges := rfl

variable {request : Request} {puts : List (Challenge × Bool)}

/-- A challenge to a request is one more that its gate has followed. -/
theorem challenge (h : request.Follows puts) (ticket verbose : Bool) (challenge : Challenge) :
    Request.Follows
      { request with
        gate := (request.gate.answer ticket verbose challenge).state
        exchanges := request.exchanges ++
          [(challenge, (request.gate.answer ticket verbose challenge).reply)] }
      (puts ++ [(challenge, ticket)]) := by
  have hflag := h.flag
  have hattempt := h.attempt
  by_cases hoffered : request.gate.anonymous = true ∧ challenge.anonymousSupported = true
  · obtain ⟨hreply, hstate⟩ := Gate.answer_of_offered ticket verbose hoffered
    rw [hflag] at hoffered
    have hbefore : request.gate.attempt = .asked ↔
        ∃ before ∈ puts.map Prod.fst, before.anonymousSupported = true := by
      rw [hattempt]
      simp [hoffered.1]
    constructor
    · rw [hstate]
      exact hflag
    · simp [hstate, hoffered]
    · simp only [h.exchanges, exchangesOf_append, exchangesOf, List.nil_append, hreply, replyTo,
        if_pos hoffered, if_congr hbefore rfl rfl]
  · obtain ⟨hreply, hstate⟩ := Gate.answer_of_not_offered ticket verbose hoffered
    rw [hflag] at hoffered
    constructor
    · rw [hstate]
      exact hflag
    · rw [hstate, hattempt]
      simp only [List.mem_append, List.mem_singleton]
      constructor
      · rintro ⟨hanonymous, put, hput, hsupported⟩
        exact ⟨hanonymous, put, .inl hput, hsupported⟩
      · rintro ⟨hanonymous, put, hput | rfl, hsupported⟩
        · exact ⟨hanonymous, put, hput, hsupported⟩
        · exact absurd ⟨hanonymous, hsupported⟩ hoffered
    · simp only [h.exchanges, exchangesOf_append, exchangesOf, hreply, replyTo, if_neg hoffered]

end Request.Follows

namespace Run

/-- The challenge that an action puts to a request, with whether a ticket cache is named. -/
def Action.put? (number : Nat) (ticket : Bool) : Action → Option (Challenge × Bool)
  | .challenge other asked => if other = number then some (asked, ticket) else none
  | _ => none

/-- Whether a ticket cache is named after an action. -/
def Action.ticketAfter (ticket : Bool) : Action → Bool
  | .ticket named => named
  | _ => ticket

/-- The challenges that actions put to a request, each with whether a ticket cache is named at that
moment. -/
def putsTo (number : Nat) : (ticket : Bool) → List Action → List (Challenge × Bool)
  | _, [] => []
  | ticket, action :: rest =>
    (action.put? number ticket).toList ++ putsTo number (action.ticketAfter ticket) rest

/-- Every request has followed the challenges put to it, and none was put before it was made. -/
structure Gated (history : Nat → List (Challenge × Bool)) (run : Run) : Prop where
  follows : ∀ (number : Nat) (request : Request), run.docket.requests[number]? = some request →
    request.Follows (history number)
  unmade : ∀ number, run.docket.requests.length ≤ number → history number = []

theorem Gated.start (ticket : Bool) (entries : List Entry) :
    Gated (fun _ => []) (start ticket entries) where
  follows := by
    intro number request hfound
    cases hfound
  unmade := fun _ _ => rfl

theorem ticket_step {verbose : Bool} {run next : Run} {action : Action}
    (h : run.step? verbose action = some next) : next.ticket = action.ticketAfter run.ticket := by
  cases step_of_step? h <;> rfl

theorem length_le_step {verbose : Bool} {run next : Run} {action : Action}
    (h : run.step? verbose action = some next) :
    run.docket.requests.length ≤ next.docket.requests.length := by
  cases step_of_step? h with
  | dispatch hnext => simp [Docket.openRequest]
  | challenge hmade => simp
  | complete hfound hrunning => simp
  | ticket => exact Nat.le_refl _
  | track hlast harrived hexpected => exact Nat.le_refl _

/-- A request that an action makes is a fresh one. -/
theorem fresh_of_step {verbose : Bool} {run next : Run} {action : Action}
    (h : run.step? verbose action = some next) {number : Nat} {request : Request}
    (hunmade : ¬number < run.docket.requests.length)
    (hfound : next.docket.requests[number]? = some request) :
    ∃ entry, request = Request.fresh entry := by
  obtain ⟨hlt, -⟩ := List.getElem?_eq_some_iff.mp hfound
  cases step_of_step? h with
  | dispatch hnext =>
      rename_i entry rest
      have hnumber : number = run.docket.requests.length := by
        simp only [Docket.openRequest, List.length_append, List.length_singleton] at hlt
        omega
      refine ⟨entry, ?_⟩
      simp only [Docket.openRequest, hnumber, List.getElem?_concat_length] at hfound
      exact (Option.some.inj hfound).symm
  | challenge hmade => exact absurd hlt (by simpa using hunmade)
  | complete hother hrunning => exact absurd hlt (by simpa using hunmade)
  | ticket => exact absurd hlt hunmade
  | track hlast harrived hexpected => exact absurd hlt hunmade

/-- Only a challenge to a request touches its gate and its exchanges. -/
theorem step_of_not_put {verbose : Bool} {run next : Run} {action : Action}
    (h : run.step? verbose action = some next) {number : Nat} {request : Request}
    (hfound : run.docket.requests[number]? = some request)
    (hother : ∀ challenge, action ≠ .challenge number challenge) :
    ∃ reports, next.docket.requests[number]? = some { request with reports := reports } := by
  obtain ⟨hlt, -⟩ := List.getElem?_eq_some_iff.mp hfound
  cases step_of_step? h with
  | dispatch hnext =>
      refine ⟨request.reports, ?_⟩
      rw [← hfound]
      exact List.getElem?_append_left hlt
  | @challenge asked challenge hmade =>
      have hne : asked ≠ number := by
        rintro rfl
        exact hother challenge rfl
      refine ⟨request.reports, ?_⟩
      rw [Docket.challenge_of_found run.ticket verbose challenge (List.getElem?_eq_getElem hmade)]
      exact (List.getElem?_set_ne hne).trans hfound
  | @complete ended status reported hended hrunning =>
      rw [Docket.complete_of_found status hended]
      by_cases heq : ended = number
      · subst heq
        cases hfound.symm.trans hended
        exact ⟨_, List.getElem?_set_self hlt⟩
      · exact ⟨request.reports, (List.getElem?_set_ne heq).trans hfound⟩
  | ticket => exact ⟨request.reports, hfound⟩
  | track hlast harrived hexpected => exact ⟨request.reports, hfound⟩

theorem Action.put?_eq_none {number : Nat} {ticket : Bool} {action : Action}
    (h : ∀ challenge, action ≠ .challenge number challenge) : action.put? number ticket = none := by
  cases action with
  | challenge other asked =>
      refine if_neg ?_
      rintro rfl
      exact h asked rfl
  | dispatch => rfl
  | complete other status => rfl
  | ticket named => rfl
  | track => rfl

/-- Nobody puts a challenge to a request before it is made. -/
theorem put?_eq_none_of_unmade {verbose : Bool} {run next : Run} {action : Action}
    (h : run.step? verbose action = some next) {number : Nat}
    (hunmade : ¬number < run.docket.requests.length) : action.put? number run.ticket = none := by
  refine Action.put?_eq_none ?_
  rintro challenge rfl
  cases step_of_step? h with
  | challenge hmade => exact hunmade hmade

namespace Gated

variable {verbose : Bool} {run next : Run} {history : Nat → List (Challenge × Bool)}

/-- An action adds to what a gate has followed the challenge that it puts to it, if it puts one. -/
theorem step (h : Gated history run) {action : Action} (hstep : run.step? verbose action = some next) :
    Gated (fun number => history number ++ (action.put? number run.ticket).toList) next := by
  constructor
  · intro number after hafter
    by_cases hmade : number < run.docket.requests.length
    · have hfound := List.getElem?_eq_getElem hmade
      have hfollows := h.follows number _ hfound
      by_cases hput : ∃ challenge, action = .challenge number challenge
      · obtain ⟨challenge, rfl⟩ := hput
        cases step_of_step? hstep with
        | challenge =>
            rw [Docket.challenge_of_found run.ticket verbose challenge hfound] at hafter
            cases (List.getElem?_set_self hmade).symm.trans hafter
            rw [Action.put?, if_pos rfl]
            exact hfollows.challenge run.ticket verbose challenge
      · have hother : ∀ challenge, action ≠ .challenge number challenge :=
          fun challenge hsame => hput ⟨challenge, hsame⟩
        obtain ⟨reports, hkept⟩ := step_of_not_put hstep hfound hother
        cases hkept.symm.trans hafter
        rw [Action.put?_eq_none hother, Option.toList_none, List.append_nil]
        exact ⟨hfollows.flag, hfollows.attempt, hfollows.exchanges⟩
    · obtain ⟨entry, rfl⟩ := fresh_of_step hstep hmade hafter
      rw [h.unmade number (Nat.le_of_not_lt hmade), put?_eq_none_of_unmade hstep hmade]
      exact .fresh entry
  · intro number hunmade
    have hbefore := Nat.le_trans (length_le_step hstep) hunmade
    rw [h.unmade number hbefore, put?_eq_none_of_unmade hstep (Nat.not_lt.mpr hbefore)]
    rfl

theorem steps (h : Gated history run) {actions : List Action}
    (hsteps : run.steps? verbose actions = some next) :
    Gated (fun number => history number ++ putsTo number run.ticket actions) next := by
  induction actions generalizing run history with
  | nil =>
      cases hsteps
      simpa only [putsTo, List.append_nil] using h
  | cons action rest ih =>
      rw [steps?] at hsteps
      cases hstep : run.step? verbose action with
      | none => simp [hstep] at hsteps
      | some middle =>
          rw [hstep] at hsteps
          have hrest := ih (h.step hstep) hsteps
          simpa only [putsTo, ticket_step hstep, List.append_assoc] using hrest

end Gated

/-- Authentication is one-shot for each request, and requests do not see each other's. Whatever is done in
a run, the reply to each challenge of a request follows from its entry's flag, the challenges put to this
request before it, and whether a ticket cache is named at that moment, by any value: an anonymous
request accepts the first offer of anonymous access and gives up at every further one, and a
ticket decides everything else. No reply asks for other credentials; a gate remembers an attempt exactly if
its own request is anonymous and has been offered anonymous access; and an action that is no challenge to
a request, such as one to another request for the same location, leaves its gate as it is. -/
theorem gates_are_one_shot_and_isolated {ticket verbose : Bool} {entries : List Entry}
    {actions : List Action} {run : Run}
    (h : (start ticket entries).steps? verbose actions = some run) {number : Nat} {request : Request}
    (hfound : run.docket.requests[number]? = some request) :
    let puts := putsTo number ticket actions
    entries[number]? = some request.entry ∧ request.exchanges.length = puts.length ∧
    (∀ (place : Nat) (challenge : Challenge) (named : Bool),
      puts[place]? = some (challenge, named) →
      request.exchanges[place]? = some (challenge,
        if request.entry.anonymous = true ∧ challenge.anonymousSupported = true then
          if ∃ put ∈ puts.take place, put.1.anonymousSupported = true then .aborted else .handled
        else if named = true then .handled
        else .aborted)) ∧
    (∀ environment : Environment,
      environment.ticket = true ↔ ∃ value, environment.ticketCache = some value) ∧
    (∀ exchange ∈ request.exchanges, exchange.2 ≠ .unhandled) ∧
    (request.gate.attempt = .asked ↔
      request.entry.anonymous = true ∧ ∃ put ∈ puts, put.1.anonymousSupported = true) ∧
    ∀ (action : Action) (next : Run), run.step? verbose action = some next →
      (∀ challenge, action ≠ .challenge number challenge) →
      ∃ reports, next.docket.requests[number]? = some { request with reports := reports } := by
  have haccounted := (Accounted.start ticket entries).steps h
  have hfollows := ((Gated.start ticket entries).steps h).follows number request hfound
  rw [List.nil_append] at hfollows
  intro puts
  have hexchanges : request.exchanges = exchangesOf request.entry.anonymous [] puts :=
    hfollows.exchanges
  refine ⟨haccounted.entry_eq hfound, ?_, ?_, ?_, ?_, hfollows.attempt, ?_⟩
  · rw [hexchanges]
    exact length_exchangesOf _ _ puts
  · intro place challenge named hput
    have hearlier : (∃ before ∈ [] ++ (puts.take place).map Prod.fst,
        before.anonymousSupported = true) ↔
        ∃ put ∈ puts.take place, put.1.anonymousSupported = true := by
      simp only [List.nil_append, List.mem_map, exists_exists_and_eq_and]
    rw [hexchanges, getElem?_exchangesOf, hput, Option.map_some, replyTo,
      if_congr hearlier rfl rfl]
  · intro environment
    exact Option.isSome_iff_exists
  · intro exchange hmem
    rw [hexchanges] at hmem
    obtain ⟨place, hplace⟩ := List.mem_iff_getElem?.mp hmem
    rw [getElem?_exchangesOf] at hplace
    obtain ⟨put, -, rfl⟩ := Option.map_eq_some_iff.mp hplace
    exact replyTo_ne_unhandled _ _ put.2 put.1
  · intro action next hstep hother
    exact step_of_not_put hstep hfound hother

/-- Two anonymous requests for one location. The first is offered anonymous access twice, and in between
asked for credentials once without a ticket and once with one; the second is offered it once, last. -/
theorem twin_gates_answer_for_themselves :
    ∃ run, (start false [⟨"smb://h/a", true⟩, ⟨"smb://h/a", true⟩]).steps? false
        [.dispatch, .dispatch, .challenge 0 { anonymousSupported := true }, .challenge 0 {},
          .ticket true, .challenge 0 {}, .challenge 0 { anonymousSupported := true }, .ticket false,
          .challenge 1 { anonymousSupported := true }] = some run ∧
      ∃ first second, run.docket.requests = [first, second] ∧
        first.exchanges.map Prod.snd = [.handled, .aborted, .handled, .aborted] ∧
        second.exchanges[0]? = some ({ anonymousSupported := true }, .handled) := by
  have h := Option.some_get (show ((start false [⟨"smb://h/a", true⟩, ⟨"smb://h/a", true⟩]).steps?
    false [.dispatch, .dispatch, .challenge 0 { anonymousSupported := true }, .challenge 0 {},
      .ticket true, .challenge 0 {}, .challenge 0 { anonymousSupported := true }, .ticket false,
      .challenge 1 { anonymousSupported := true }]).isSome = true by decide +kernel)
  refine ⟨_, h.symm, _, _, rfl, by decide +kernel, ?_⟩
  obtain ⟨-, -, hreplies, -⟩ :=
    gates_are_one_shot_and_isolated h.symm (show _[1]? = some _ from rfl)
  exact hreplies 0 { anonymousSupported := true } false (by decide +kernel)

end Run

end Mounting

end SessionMounts
