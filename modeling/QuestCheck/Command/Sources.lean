import QuestCheck.Command.FileTree
import QuestCheck.Fault
import QuestCheck.Json.Print
import QuestCheck.Stored

/-!
# Sources of a command

The suites are the files below a directory whose extension is `quest`; the world is a JSON file.

* `Failure`, why the command fails before any check is run;
* `Complaint`: what is said of a text that is no world;
* `suitePackage?`: the package of a suite's file;
* `readSuites` and `readWorld`.
-/

namespace QuestCheck.Command

/-- Why the command fails before any check is run. -/
inductive Failure where
  | directoryMissing (path : String)
  | notDirectory (path : String)
  | noSuites (path : String)
  | unreadable (path : String) (cause : FileError)
  | worldInvalid (path : String) (reason : String)
  | rejected (fault : Fault)
  deriving DecidableEq, Repr

namespace Failure

/-- The stable code of a failure. -/
def code : Failure → String
  | directoryMissing _ => "CLI_SOURCE_NOT_FOUND"
  | notDirectory _ => "CLI_SOURCE_NOT_DIR"
  | noSuites _ => "CLI_SOURCE_EMPTY"
  | unreadable .. => "CLI_SOURCE_READ"
  | worldInvalid .. => "CLI_WORLD_INVALID"
  | rejected fault => fault.code

/-- The sentence that says what is wrong. -/
def message : Failure → String
  | directoryMissing path => s!"scripts-dir does not exist: {path}"
  | notDirectory path => s!"scripts-dir is not a directory: {path}"
  | noSuites path => s!"No .quest files under {path}."
  | unreadable path cause => s!"Failed to read file {path}: " ++ cause.message
  | worldInvalid path reason => s!"Failed to parse world file {path}: {reason}"
  | rejected fault => fault.message

end Failure

/-- What is said of a text that is no world. The words are those of whoever reads JSON for the
command. -/
abbrev Complaint : Type := String → String

/-- No words. -/
def Complaint.silent : Complaint := fun _ => ""

/-- Where the files of a command are. -/
abbrev Files : Type := String → Except FileError FileTree

/-- The ending of a suite's file. -/
def suiteEnding : List Char := ".quest".toList

/-- The name of a suite's file without its ending; nothing else is a suite's file. -/
def suiteStem? (name : String) : Option String :=
  let cs := name.toList
  if suiteEnding <:+ cs ∧ suiteEnding.length < cs.length then
    some (String.ofList (cs.take (cs.length - suiteEnding.length)))
  else none

/-- The last segment of a package: the stem, of which a dot alone is written twice. -/
def lastSegment (stem : String) : String := if stem = "." then ".." else stem

/-- The package of a suite's file: the segments of its path, without the ending and with dots
between them. -/
def suitePackage? (path : List String) : Option String := do
  let stem ← suiteStem? (← path.getLast?)
  return ".".intercalate (path.dropLast ++ [lastSegment stem])

/-- One more suite, if the file is one. Of two suites with the same package the later one counts. -/
def addSuite (root : String) (suites : Dict String) (f : FileTree.Found) :
    Except Failure (Dict String) :=
  match suitePackage? f.1, FileTree.readable? root f with
  | some package, some content =>
    match FileTree.decode content with
    | .ok text => .ok (suites.insert package text)
    | .error cause => .error (.unreadable (Path.join root f.1) cause)
  | _, _ => .ok suites

/-- The suites below a directory, by their packages. -/
def readSuites (files : Files) (path : String) : Except Failure (Dict String) :=
  match files path with
  | .error _ => .error (.directoryMissing path)
  | .ok (.file _) => .error (.notDirectory path)
  | .ok (.directory entries) => do
    let suites ← (FileTree.directory entries).files.foldlM (addSuite path) ∅
    if suites.isEmpty then .error (.noSuites path) else return suites

/-- The world of a file, or the empty world. -/
def readWorld (complaint : Complaint) (files : Files) : Option String → Except Failure World
  | none => .ok .empty
  | some path =>
    match files path >>= FileTree.text with
    | .error cause => .error (.unreadable path cause)
    | .ok text =>
      (Stored.read World.ofJson? text).mapError fun _ => .worldInvalid path (complaint text)

end QuestCheck.Command
