import QuestCheck.Command.Report

/-!
# The program

Reads the files, runs the command on them, and prints what came of it: the output on standard
output, the events on standard error.

* `main`.
-/

namespace QuestCheck.Program

open Command

/-- How the command is used. -/
def usageText : String :=
  "Usage: run --scripts-dir <DIR> [--world <FILE>] [--actor <ID>]... [-v | --verbose]"

/-- The error of a file that cannot be read; a name that is too long has the code 36, of either
sign. -/
def fileError : IO.Error → FileError
  | .noFileOrDirectory .. => .notFound
  | .inappropriateType .. => .notDirectory
  | .invalidArgument _ 36 _ | .invalidArgument _ 4294967260 _ => .nameTooLong
  | e => .other (toString e)

/-- The content of a file. -/
def readContent (path : String) : IO (Except FileError ByteArray) := do
  try
    return .ok (← IO.FS.readBinFile path)
  catch e =>
    return .error (fileError e)

/-- The tree at an entry of a directory, in which only suites have a content. What is neither a file
nor a directory is left out, and a directory that cannot be entered is empty. -/
partial def readEntry (entry : IO.FS.DirEntry) : IO (Option (String × FileTree)) := do
  let path := entry.path.toString
  let content := if (suiteStem? entry.fileName).isSome then readContent path else pure (.ok .empty)
  let kind ← try pure (← entry.path.symlinkMetadata).type catch _ => pure .file
  match kind with
  | .dir =>
    let entries ← try entry.path.readDir catch _ => pure #[]
    return some (entry.fileName, .directory (← entries.toList.filterMapM readEntry))
  | .file => return some (entry.fileName, .file (← content))
  | _ => return none

/-- The place of a path, whose entries are read if they are asked for. -/
def readPath (path : String) (entries : Bool) : IO (Except FileError FileTree) := do
  if path.isEmpty then return .error .notFound
  let place := (IO.FS.DirEntry.mk path "").root
  try
    if (← place.metadata).type matches .dir then
      let found ← if entries then place.readDir else pure #[]
      return .ok (.directory (← found.toList.filterMapM readEntry))
    else
      return .ok (.file (← readContent path))
  catch e =>
    return .error (fileError e)

/-- The files that the options name. -/
def readFiles (o : Options) : IO Files := do
  let scripts ← readPath o.scriptsDir true
  let world ← readPath (o.world.getD "") false
  return fun path => if path = o.scriptsDir then scripts else world

/-- The level in the text of an event. -/
def levelText : Level → String
  | .debug => "DEBUG"
  | .info => " INFO"
  | .warn => " WARN"
  | .error => "ERROR"

/-- A detail in the text of an event. -/
def detailText : Detail → String
  | .text s => s
  | .truth b => Truth.text b
  | .count n => Nat.repr n

/-- An event on one line. -/
def eventText (e : Event) : String :=
  " ".intercalate
    (levelText e.level :: e.message :: e.fields.map fun f => f.1 ++ "=" ++ detailText f.2)

/-- The end of the program: the events go to standard error, those for the curious only if they are
asked for. -/
def finish (verbose : Bool) (x : Execution) : IO UInt32 := do
  for e in x.events do
    if verbose || e.level != .debug then IO.eprintln (eventText e)
  for line in x.conclusion.output do
    IO.println line
  return x.conclusion.exitCode.toUInt32

end QuestCheck.Program

/-- The program on its arguments. The reader of JSON here has no words for a text that is no
world. -/
def main (arguments : List String) : IO UInt32 := do
  match QuestCheck.Command.Options.parse arguments with
  | .error usage =>
    match usage with
    | .help => IO.println QuestCheck.Program.usageText
    | .wrong => IO.eprintln QuestCheck.Program.usageText
    return usage.exitCode.toUInt32
  | .ok options =>
    let files ← QuestCheck.Program.readFiles options
    QuestCheck.Program.finish options.verbose (QuestCheck.Command.perform .silent files options)
