import Typeahead.Console.Run

/-!
# The console as a program

Gives the console its arguments, its environment, the disk and the standard streams. Its engine refuses
no term. It has no link to a network, so every fetch ends as one to a server that cannot be reached.
-/

namespace Typeahead.Console

attribute [local instance] Engine.unlimited

/-- What the system says of a file, in the words of a disk where it has them. -/
def systemText (e : IO.Error) : String :=
  match e with
  | .noFileOrDirectory .. => DiskError.notFound.message
  | .alreadyExists .. => DiskError.alreadyThere.message
  | .inappropriateType _ 20 _ => DiskError.notFolder.message
  | .inappropriateType _ 21 _ => DiskError.isFolder.message
  | e => toString e

/-- Fails with a last word. -/
def fail (message : String) : IO UInt32 := do
  IO.eprintln ("Error: " ++ message)
  return 1

/-- Makes the log on the real disk. -/
def makeLogFile (file : String) : IO Unit := do
  if let some folder := (Path.ofString file).parent? then
    if !folder.steps.isEmpty then
      IO.FS.createDirAll ((if folder.absolute then "/" else "") ++ "/".intercalate folder.steps)
  IO.FS.writeBinFile file ByteArray.empty

/-- Prints the lines that are new since `before` lines had been printed. -/
def printNew (before : Nat) (s : Session) : IO Unit := do
  for line in s.printed.drop before do
    IO.println line
  (← IO.getStdout).flush

/-- Reads on to the end of a line, after the bytes in `line`. -/
partial def readLine (stdin : IO.FS.Stream) (line : ByteArray) : IO ByteArray := do
  let next ← stdin.read 1
  if next.isEmpty || next[0]? = some 10 then return line ++ next
  else readLine stdin (line ++ next)

/-- Takes lines to the end of input, or until the session ends. -/
partial def serve (stdin : IO.FS.Stream) (s : Session) : IO Session := do
  if s.status ≠ .reading then return s
  let line ← readLine stdin .empty
  if line.isEmpty then return s
  let s' := (inputLines line.toList).foldl (fun s text => s.step (.line text)) s
  printNew s.printed.length s'
  serve stdin s'

/-- Runs a session to its end. -/
def finish (s : Session) : IO UInt32 := do
  printNew 0 s
  let s ← serve (← IO.getStdin) s.pause
  match s.status with
  | .broken => fail ("I/O error: " ++ DiskError.notText.message)
  | _ =>
    printNew s.printed.length s.close
    return 0

/-- Runs the console under the arguments given. -/
def runArguments (a : Arguments) : IO UInt32 := do
  let a := a.within
    ⟨← IO.getEnv "COMBOBOX_SOURCE_URL", ← IO.getEnv "HOME", ← IO.getEnv "XDG_CACHE_HOME"⟩
  try
    if let some file := a.logFile then makeLogFile file
    let settings ← match a.config with
      | some file => pure (settingsOf file (← IO.FS.readBinFile file))
      | none => pure (.ok {})
    match settings.bind fun file => a.session file fun c =>
        (c.fetch .unreachable).elim .waiting .answered with
    | .ok s => finish s
    | .error e => fail e.message
  catch e => fail ("I/O error: " ++ systemText e)

end Typeahead.Console

/-- The console. -/
def main (arguments : List String) : IO UInt32 := do
  match Typeahead.Console.Arguments.read arguments with
  | .run a => Typeahead.Console.runArguments a
  | .version =>
    IO.println Typeahead.Console.versionText
    return 0
  | .help =>
    IO.println Typeahead.Console.usageText
    return 0
  | .misuse =>
    IO.eprintln Typeahead.Console.usageText
    return 2
