/-!
Messages for the person at the terminal. A run produces a log of messages in the order in which
they are printed; debug messages are produced only by a verbose run. How a message looks is
decided here alone: a coloured label, the text, and a line end. Printing never fails.
-/

namespace SessionMounts.Console

inductive Level where
  | debug
  | info
  | notice
  | ok
  | warning
  | error
  deriving DecidableEq, Repr

structure Message where
  level : Level
  text : String
  deriving DecidableEq, Repr

/-- The messages of a run, in the order in which they are printed. -/
abbrev Log := List Message

/-- The messages that a run produces whether it is verbose or not. -/
def Log.quiet (log : Log) : Log :=
  log.filter fun message => message.level ≠ .debug

def info (text : String) : Message := ⟨.info, text⟩
def notice (text : String) : Message := ⟨.notice, text⟩
def ok (text : String) : Message := ⟨.ok, text⟩
def warning (text : String) : Message := ⟨.warning, text⟩
def error (text : String) : Message := ⟨.error, text⟩

/-- What a run prints of a message: a debug message only if the run is verbose. -/
def printed (verbose : Bool) (message : Message) : Log :=
  if message.level = .debug ∧ verbose = false then [] else [message]

def debug (verbose : Bool) (text : String) : Log :=
  printed verbose ⟨.debug, text⟩

/-- The terminal's colours, as escape sequences. -/
inductive Color where
  | silver
  | cyan
  | magenta
  | green
  | lightGreen
  | yellow
  | red
  | reset
  deriving DecidableEq, Repr

def Color.sequence : Color → String
  | .silver => "\x1b[90m"
  | .cyan => "\x1b[96m"
  | .magenta => "\x1b[95m"
  | .green => "\x1b[0;32m"
  | .lightGreen => "\x1b[1;32m"
  | .yellow => "\x1b[93m"
  | .red => "\x1b[91m"
  | .reset => "\x1b[0m"

/-- The coloured beginning of a message. -/
def Level.label : Level → String
  | .debug => Color.silver.sequence ++ "Debug: "
  | .info => Color.cyan.sequence ++ "Info: " ++ Color.silver.sequence
  | .notice => Color.magenta.sequence ++ "Notice: " ++ Color.cyan.sequence
  | .ok => Color.green.sequence ++ "OK: " ++ Color.lightGreen.sequence
  | .warning => Color.yellow.sequence ++ "Warning: "
  | .error => Color.red.sequence ++ "Error: "

def Message.render (message : Message) : String :=
  message.level.label ++ message.text ++ Color.reset.sequence ++ "\n"

def Log.render (log : Log) : String :=
  String.join (log.map Message.render)

@[simp] theorem Log.quiet_nil : Log.quiet [] = [] := rfl

@[simp] theorem Log.quiet_append (front back : Log) :
    Log.quiet (front ++ back) = Log.quiet front ++ Log.quiet back := by
  simp [Log.quiet]

/-- What a quiet run prints of a message is what a verbose run prints of it, less the debug
messages. -/
@[simp] theorem quiet_printed (verbose : Bool) (message : Message) :
    Log.quiet (printed verbose message) = printed false message := by
  by_cases h : message.level = .debug
  · cases verbose <;> simp [printed, Log.quiet, h]
  · simp [printed, Log.quiet, h]

/-- Without its debug messages a verbose log is the log of the quiet run. -/
@[simp] theorem quiet_debug (verbose : Bool) (text : String) :
    Log.quiet (debug verbose text) = [] := by
  rw [debug, quiet_printed]
  simp [printed]

/-- What is printed by the thread that runs the command, and by a thread in the background. -/
structure Output where
  main : Log := []
  loop : Log := []
  deriving DecidableEq, Repr

namespace Output

def front (log : Log) : Output := { main := log }

def back (log : Log) : Output := { loop := log }

instance : Append Output where
  append first second := ⟨first.main ++ second.main, first.loop ++ second.loop⟩

@[simp] theorem main_append (first second : Output) :
    (first ++ second).main = first.main ++ second.main := rfl

@[simp] theorem loop_append (first second : Output) :
    (first ++ second).loop = first.loop ++ second.loop := rfl

/-- The part of an output that is printed whether the run is verbose or not. -/
def quiet (output : Output) : Output := ⟨output.main.quiet, output.loop.quiet⟩

end Output

/-- What is printed on an interrupt before the program ends: an empty
line after the terminal's own echo, and a warning. -/
def interruptNotice : String :=
  "\n\n" ++ (warning "Keyboard interrupt detected - exiting").render

def interruptExitCode : Int := 1

end SessionMounts.Console
