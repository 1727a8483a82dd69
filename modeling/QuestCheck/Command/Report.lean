import QuestCheck.Command.Arguments
import QuestCheck.Command.Sources
import QuestCheck.Suite.Load

/-!
# The command and its report

The command reads the suites of a directory and the world, loads all checks, and runs every check
for every actor, whatever faults single runs end in.

* `runAll`: the runs and their faults;
* `Summary`, `Conclusion` with its `exitCode` and its `output`, and `Execution`, which adds the
  events;
* **`execute`**: the command on given files and arguments, and with the words for a text that is no
  world.
-/

namespace QuestCheck.Command

/-- A run that ended in a fault. -/
structure RunFault where
  check : QualifiedName
  fault : Fault
  deriving DecidableEq, Repr

/-- The run of a check; a fault leaves an event and is returned. -/
def runOne (actor : Option Actor) (c : Check) : Procedure (Option RunFault) := do
  match ← (c.run actor).attempt with
  | .ok _ => return none
  | .error fault =>
    Procedure.note (.runFailed c.id fault)
    return some ⟨c.id, fault⟩

/-- The runs of all checks for one actor after another, with the faults they ended in. -/
def runAll (checks : List Check) (actors : List (Option Actor)) : Procedure (List RunFault) := do
  let faults ← actors.mapM fun actor => checks.mapM (runOne actor)
  return (faults.flatten).filterMap id

/-- The actors for whom checks are run: without any, they are run without an actor. -/
def runActors (ids : List String) : List (Option Actor) :=
  if ids.isEmpty then [none] else ids.map fun id => some ⟨id⟩

/-- What became of all runs. -/
structure Summary where
  runs : Nat
  passed : Nat
  faults : List RunFault
  /-- Runs that reported anything but a success. -/
  failed : Nat
  deriving DecidableEq, Repr

namespace Summary

/-- Nothing failed and nothing ended in a fault. -/
def success (s : Summary) : Bool := s.failed + s.faults.length == 0

/-- The lines of the summary. -/
def output (s : Summary) : List String :=
  (s.faults.map fun f => "RUN_ERROR:" ++ f.check.display ++ ":" ++ f.fault.code) ++
    ["TESTS:" ++ Nat.repr s.runs, "PASSED:" ++ Nat.repr s.passed,
      "FAILED:" ++ Nat.repr (s.failed + s.faults.length),
      if s.success then "RESULT:OK" else "RESULT:FAILED"]

end Summary

/-- How the command ends. -/
inductive Conclusion where
  | usage (u : Usage)
  | failed (f : Failure)
  | finished (s : Summary)
  deriving DecidableEq, Repr

namespace Conclusion

/-- The exit code. -/
def exitCode : Conclusion → Nat
  | usage u => u.exitCode
  | failed _ => 1
  | finished s => if s.success then 0 else 1

/-- The lines of the output; how the command is used is told elsewhere. -/
def output : Conclusion → List String
  | usage _ => []
  | failed f =>
    ["RESULT:ERROR", "ERROR_CODE:" ++ f.code, "ERROR_MSG_JSON:" ++ Json.quote f.message]
  | finished s => s.output

end Conclusion

/-- The end of the command and the events on the way. -/
structure Execution where
  conclusion : Conclusion
  events : List Event

/-- The number of lines of a severity. -/
def count (severity : Severity) (lines : List Line) : Nat :=
  lines.countP (·.severity = severity)

/-- All checks of the suites, with an event when they are loaded. -/
def load (root : String) (suites : Dict String) : Procedure (List Check) := do
  let checks ← Suite.loadAll suites
  Procedure.note (.loaded checks.length root)
  return checks

/-- All suites against a world. -/
def runSuites (root : String) (suites : Dict String) (world : World) (ids : List String) :
    Execution :=
  let loading := world.surroundings.run (load root suites) .empty
  match loading.result with
  | .error fault => ⟨.failed (.rejected fault), loading.trace⟩
  | .ok checks =>
    let actors := runActors ids
    let running := world.surroundings.run (runAll checks actors) loading.state
    let faults := match running.result with
      | .ok faults => faults
      | .error _ => []
    ⟨.finished
      { runs := checks.length * actors.length
        passed := count .info running.lines
        faults
        failed := count .error running.lines },
      loading.trace ++ running.trace⟩

/-- The command with given options. -/
def perform (complaint : Complaint) (files : Files) (o : Options) : Execution :=
  match readSuites files o.scriptsDir with
  | .error f => ⟨.failed f, []⟩
  | .ok suites =>
    match readWorld complaint files o.world with
    | .error f => ⟨.failed f, []⟩
    | .ok world => runSuites o.scriptsDir suites world o.actors

/-- **The command**, on files and arguments. -/
def execute (files : Files) (arguments : List String) (complaint : Complaint := .silent) :
    Execution :=
  match Options.parse arguments with
  | .error u => ⟨.usage u, []⟩
  | .ok o => perform complaint files o

end QuestCheck.Command
