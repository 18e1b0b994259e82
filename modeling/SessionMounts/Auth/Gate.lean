import SessionMounts.Console

/-!
Authentication during a mount operation. A provider puts challenges to the handler of the
operation; the handler answers each at once and may remember what it was asked. The gate is such a
handler, which answers without waiting for a person. Anonymous access is tried once, and access with
credentials is accepted only while the environment names a Kerberos ticket cache that the provider can
use.
-/

namespace SessionMounts.Auth

structure Challenge where
  message : String := ""
  defaultUser : String := ""
  defaultDomain : String := ""
  anonymousSupported : Bool := false
  deriving DecidableEq, Repr

/-- The answers that a provider accepts: go on with what is there, give up, or ask again for other
credentials. -/
inductive Reply where
  | handled
  | aborted
  | unhandled
  deriving DecidableEq, Repr

/-- A reply, the handler's state after it, and what was printed on the way. -/
structure Answer (τ : Type) where
  reply : Reply
  state : τ
  log : Console.Log := []

abbrev Handler (τ : Type) := τ → Challenge → Answer τ

/-! ### The gate -/

/-- Whether anonymous access has been tried. -/
inductive Attempt where
  | unset
  | asked
  deriving DecidableEq, Repr

structure Gate where
  anonymous : Bool := false
  attempt : Attempt := .unset
  deriving DecidableEq, Repr

namespace Gate

/-- The answer of a gate; `ticket` tells whether a ticket cache is named at that moment. -/
def answer (ticket verbose : Bool) (gate : Gate) (challenge : Challenge) : Answer Gate :=
  if gate.anonymous && challenge.anonymousSupported then
    match gate.attempt with
    | .asked => ⟨.aborted, gate, [Console.warning "Anonymous access denied."]⟩
    | .unset =>
      ⟨.handled, { gate with attempt := .asked },
        Console.debug verbose "Anonymous is supported by the provider."⟩
  else if ticket then
    ⟨.handled, gate, Console.debug verbose "Kerberos ticket found on the machine."⟩
  else ⟨.aborted, gate, [Console.warning "Kerberos ticket not available on the machine."]⟩

def handler (ticket verbose : Bool) : Handler Gate :=
  answer ticket verbose

/-- A handler that gives prepared replies, and asks a gate once they have run out. -/
def rehearsed (ticket verbose : Bool) : Handler (List Reply × Gate)
  | (reply :: replies, gate), _ => ⟨reply, (replies, gate), []⟩
  | ([], gate), challenge =>
    let answered := gate.answer ticket verbose challenge
    ⟨answered.reply, ([], answered.state), answered.log⟩

end Gate

end SessionMounts.Auth
