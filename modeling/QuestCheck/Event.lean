import QuestCheck.Actor
import QuestCheck.Fault
import QuestCheck.Inspect
import QuestCheck.QualifiedName
import QuestCheck.Truth

/-!
# Report lines and events

A run reports finished lines; besides, loading and running leave events for whoever watches.

* `Line`: a line of the report, good or bad;
* `Event`, with its `level`, its `message` and its `fields`.
-/

namespace QuestCheck

/-- Whether a report line tells of a success or of anything else. -/
inductive Severity where
  | info
  | error
  deriving DecidableEq, Repr

/-- A line of the report. -/
structure Line where
  severity : Severity
  text : String
  deriving DecidableEq, Repr

/-- How much an event matters. -/
inductive Level where
  | debug
  | info
  | warn
  | error
  deriving DecidableEq, Repr

/-- The level of a report line. -/
def Severity.level : Severity → Level
  | info => .info
  | error => .error

/-- The value of a field of an event. -/
inductive Detail where
  | text (s : String)
  | truth (b : Bool)
  | count (n : Nat)
  deriving DecidableEq, Repr

/-- Something that a watcher may want to know. -/
inductive Event where
  /-- A named field that nothing asks for. -/
  | unknownField (instruction : QualifiedName) (key : String)
  /-- A check has been compiled from a text. -/
  | compiled (check : QualifiedName) (source : String)
  /-- A check that depends on the actor is not run without one. -/
  | skipped (check : QualifiedName)
  /-- A condition is about to be evaluated. -/
  | evaluating (check condition : QualifiedName) (actor : Option Actor) (expected : Bool)
  /-- A line of the report. -/
  | reported (line : Line)
  /-- All suites below a directory have been loaded. -/
  | loaded (checks : Nat) (root : String)
  /-- The run of a check ended in a fault. -/
  | runFailed (check : QualifiedName) (fault : Fault)
  deriving DecidableEq, Repr

namespace Event

/-- How much the event matters. -/
def level : Event → Level
  | unknownField .. => .warn
  | compiled .. | skipped .. | evaluating .. | loaded .. => .debug
  | reported line => line.severity.level
  | runFailed .. => .error

/-- What happened. -/
def message : Event → String
  | unknownField .. => "ignoring unknown instruction field"
  | compiled .. => "compiled test"
  | skipped .. => "skipping test without actor"
  | evaluating .. => "evaluating test condition"
  | reported line => line.text
  | loaded .. => "loaded suites"
  | runFailed _ fault => fault.message

/-- The channel of report lines. -/
def reportChannel : String := "questscript::test"

/-- The environment variable by which a watcher says which events it wants. -/
def filterVariable : String := "QS_LOG"

/-- The channel of an event: only report lines have one of their own. -/
def channel? : Event → Option String
  | reported _ => some reportChannel
  | _ => none

/-- The details, by name. -/
def fields : Event → List (String × Detail)
  | unknownField instruction key =>
    [("instruction", .text instruction.display), ("field", .text key)]
  | compiled check source => [("test", .text check.display), ("source", .text source)]
  | skipped check => [("test", .text check.display)]
  | evaluating check condition actor expected =>
    [("test", .text check.display), ("condition", .text condition.display),
      ("actor", .text (Inspect.option (actor.map (Inspect.text ·.id)))),
      ("expected", .truth expected)]
  | reported _ => []
  | loaded checks root => [("tests", .count checks), ("root", .text root)]
  | runFailed check fault => [("test", .text check.display), ("code", .text fault.code)]

end Event

end QuestCheck
