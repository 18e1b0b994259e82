import SessionMounts.Mounting.Provider

/-!
Providers that follow a script. Items prepared under names are used one after another: this is what the
world outside will do for each location when it is asked again and again. The scripted provider follows
a plan. Each request is refused, or its challenges are put and its operation ends with a given status;
the ends may be held back and reported later in any order, also more than once or not at all.
-/

namespace SessionMounts

/-- The items still prepared under each name. -/
abbrev Prepared (α : Type) := List (String × List α)

/-- The next item prepared under a name, and what is prepared afterwards. -/
def Prepared.take? {α : Type} (name : String) : Prepared α → Option (α × Prepared α)
  | [] => none
  | (other, items) :: rest =>
    if other = name then
      match items with
      | [] => none
      | item :: items => some (item, (other, items) :: rest)
    else (take? name rest).map fun (item, rest) => (item, (other, items) :: rest)

namespace Mounting.Scripted

open Auth (Challenge)

inductive Plan where
  | refuse (text : String)
  | serve (challenges : List Challenge) (result : Status)
  deriving DecidableEq, Repr

/-- When ends are held back: as soon as that many are held, those at the given places among them
are reported in that order. -/
structure Release where
  holdUntil : Nat
  order : List Nat
  deriving DecidableEq, Repr

/-- The plans of the requests to come, when ends are released, and the ends held so far. -/
structure State where
  plans : List Plan
  release : Option Release := none
  held : List (Nat × Status) := []
  closed : Nat := 0
  deriving DecidableEq, Repr

namespace State

/-- The plan of the next request; one that is not planned is done at once. -/
def next (state : State) : Plan × State :=
  match state.plans with
  | [] => (.serve [] .done, state)
  | plan :: rest => (plan, { state with plans := rest })

/-- The state after one more end, and the ends that are now reported. -/
def finish (state : State) (request : Nat) (result : Status) : List (Nat × Status) × State :=
  match state.release with
  | none => ([(request, result)], state)
  | some release =>
    let held := state.held ++ [(request, result)]
    (if held.length = release.holdUntil then release.order.filterMap (held[·]?) else [],
      { state with held := held })

end State

def serve (state : State) (request : Nat) : Conduct (Started State) :=
  match state.next with
  | (.refuse text, state) => .finish ⟨state, some (.fault text)⟩
  | (.serve challenges result, state) =>
    .askAll request challenges fun _ =>
      let (reported, state) := state.finish request result
      .completeAll reported (.finish ⟨state, none⟩)

def provider : Provider State where
  start := fun state number _ => serve state number
  close := fun state => { state with closed := state.closed + 1 }

end Mounting.Scripted

end SessionMounts
