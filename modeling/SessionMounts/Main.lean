import SessionMounts.Command.Run

/-!
The program: it takes the files and the environment that a command line is about, runs the
command on them, and puts the results back. No mounting tool or library is at its disposal here,
and files keep the owner that the system gives them.
-/

namespace SessionMounts.Main

def nodeAt (path : String) : IO (Option Node) := do
  try
    let content ← IO.FS.readBinFile path
    return some (.file { content := content.toList, owner := ⟨0, 0⟩ })
  catch _ =>
    try
      return if ← (← IO.FS.realPath path).isDir then some .directory else none
    catch _ => return none

/-- The location of a path seen from the working directory. -/
def locationOf (files : FileSystem) (path : String) : Location :=
  ((Path.parse path).absolute files.workingDirectory).names

def textOf (location : Location) : String :=
  (Path.mk .single location).text

/-- Takes over what stands at a path and at the directories above it. -/
def load (files : FileSystem) (path : String) : IO FileSystem := do
  let location := locationOf files path
  let mut files := files
  for n in [1:location.length + 1] do
    if let some node ← nodeAt (textOf (location.take n)) then
      files := files.put (location.take n) node
  return files

/-- Writes the file at a path to the system if the command has changed it. -/
def store (before after : FileSystem) (path : String) (suffix : String) : IO Unit := do
  let location := locationOf before path
  if before.node? location != after.node? location then
    if let some (.file file) := after.node? location then
      let temporary := textOf location ++ "." ++ suffix
      IO.FS.writeBinFile temporary ⟨file.content.toArray⟩
      IO.FS.rename temporary (textOf location)

/-- Eight characters at random. -/
def freshSuffix : IO String := do
  let letters := "abcdefghijklmnopqrstuvwxyz0123456789_".toList
  let mut suffix := ""
  for _ in [0:8] do
    suffix := suffix.push (letters[← IO.rand 0 (letters.length - 1)]?.getD '_')
  return suffix

/-- The exit code of an outcome; an outcome without one counts as a failure. -/
def codeOf : Command.Outcome → UInt32
  | .returned code => UInt32.ofNat code.number.toNat
  | .exited code => UInt32.ofNat code.toNat
  | _ => 1

def run (words : List String) : IO UInt32 := do
  let environment : Environment :=
    { debug := ← IO.getEnv "USERMOUNT_DEBUG"
      ticketCache := ← IO.getEnv "KRB5CCNAME"
      provider := ← IO.getEnv "USERMOUNT_PROVIDER"
      parser := .late }
  let directory := toString (← IO.currentDir)
  let mut files : FileSystem :=
    { workingDirectory := (Path.parse directory).names, user := ⟨0, 0⟩ }
  let mut paths : List String := []
  if let .ok arguments := Command.Arguments.parse environment.parser words then
    paths := arguments.mountsFile :: arguments.policyFile?.toList
  for path in paths do
    files ← load files path
  let suffix ← freshSuffix
  let finished := Command.run (Session.backends false) ⟨files, environment, {}⟩
    environment.verbose (fun _ => none) suffix words
  for path in paths do
    store files finished.files path suffix
  IO.print (finished.helpText ++ finished.output.main.render)
  IO.eprint finished.errorText
  return codeOf finished.outcome

end SessionMounts.Main

def main (words : List String) : IO UInt32 :=
  SessionMounts.Main.run words
