import SessionMounts.InProcess.Loop
import SessionMounts.MountTool.Provider

/-!
A session: what it finds in its environment, and the providers that it can choose from. The variables
that matter tell whether debug messages are printed, whether a Kerberos ticket cache is named and which
provider is preferred; the option parser belongs to the system.
-/

namespace SessionMounts

/-- The editions of the option parser. In the early one two dashes are no value of a switch, a letter
that is no switch spoils the flags before it in its word, and an equals sign behind a switch that
shares its word counts as a part of what follows. In the late one two dashes are a value like any
other, such a letter is left over, and an equals sign always introduces a value. -/
inductive ParserEdition where
  | early
  | late
  deriving DecidableEq, Repr

structure Environment where
  debug : Option String := none
  ticketCache : Option String := none
  provider : Option String := none
  parser : ParserEdition := .early
  deriving DecidableEq, Repr

namespace Environment

/-- A ticket cache is named, by whatever value. -/
def ticket (environment : Environment) : Bool :=
  environment.ticketCache.isSome

/-- Debug messages are asked for by any value that is not empty. -/
def verbose (environment : Environment) : Bool :=
  environment.debug.any fun value => !value.isEmpty

/-- The preferred provider, if one is named by a value that is not empty. -/
def preferredProvider (environment : Environment) : Option String :=
  environment.provider.filter fun value => !value.isEmpty

end Environment

/-! ### The choice of a provider

A provider has a name. The one that mounts in the process itself needs a library that may be missing. -/

namespace Mounting

inductive Backend where
  | gio
  | cli
  deriving DecidableEq, Repr

def Backend.name : Backend → String
  | .gio => "gio"
  | .cli => "cli"

def Backend.ofName? (name : String) : Option Backend :=
  if name = Backend.gio.name then some .gio
  else if name = Backend.cli.name then some .cli
  else none

/-- Why there is no provider to be had. -/
inductive Unavailable where
  | unsupported (name : String)
  | missingLibrary
  deriving DecidableEq, Repr

def Unavailable.message : Unavailable → String
  | .unsupported name => "Unsupported provider: " ++ name
  | .missingLibrary => "No module named 'gi'"

structure Backends (σ : Type) where
  gio : Option (Provider σ)
  cli : Provider σ

namespace Backends

variable {σ : Type}

/-- The name of the provider to be used: the one given, else the one preferred by the environment,
else the one that mounts in the process itself. An empty name counts as none. -/
def chosenName (given : Option String) (environment : Environment) : String :=
  match given.filter fun name => !name.isEmpty with
  | some name => name
  | none => environment.preferredProvider.getD Backend.gio.name

def find (backends : Backends σ) : Backend → Except Unavailable (Provider σ)
  | .cli => .ok backends.cli
  | .gio =>
    match backends.gio with
    | some provider => .ok provider
    | none => .error .missingLibrary

/-- The provider to be used, and its kind. -/
def select (backends : Backends σ) (given : Option String) (environment : Environment) :
    Except Unavailable (Backend × Provider σ) :=
  let name := chosenName given environment
  match Backend.ofName? name with
  | none => .error (.unsupported name)
  | some backend => (backends.find backend).map fun provider => (backend, provider)

end Backends

end Mounting

/-! ### The providers of a session

One runs the mounting tool, the other mounts in the process itself where its library is installed. Both
keep their states side by side. -/

open Mounting (Backends)

structure Session where
  tool : MountTool.State := {}
  library : InProcess.State := {}
  deriving DecidableEq, Repr

def Session.backends (libraryInstalled : Bool) : Backends Session where
  cli := (MountTool.provider MountTool.defaultCommand).within Session.tool
    fun session state => { session with tool := state }
  gio :=
    if libraryInstalled then
      some (InProcess.provider.within Session.library
        fun session state => { session with library := state })
    else none

end SessionMounts
