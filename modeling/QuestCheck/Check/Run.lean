import QuestCheck.Check

/-!
# Running checks

* `Check.run`: a check for an actor, or without one, reports one line or ends in a fault;
* `Check.runFor` and `Check.runAlone` for callers that always, or never, have an actor.
-/

namespace QuestCheck.Check

/-- The report of a condition's outcome: the message of the success or of the failure is found only
now, and only that one. -/
def conclude (c : Check) (actor : Option Actor) (condition : QualifiedName)
    (expected actual : Bool) : Procedure Unit := do
  if actual = expected then
    let message ← c.success.forRun actor
    Procedure.report .info (message.fill [c.id.display, condition.display])
  else
    let message ← c.failure.forRun actor
    Procedure.report .error
      (message.fill [c.id.display, condition.display, Truth.text expected, Truth.text actual])

/-- The check itself, for an actor or without one. -/
def examine (c : Check) (actor : Option Actor) : Procedure Unit := do
  let condition ← c.condition.forRun actor
  let expected ← c.expected.forRun actor
  Procedure.note (.evaluating c.id condition actor expected)
  let actual ← Procedure.evaluate actor condition
  c.conclude actor condition expected actual

/-- A check that depends on the actor is reported as skipped where there is none. -/
def skipRun (c : Check) : Procedure Unit := do
  Procedure.note (.skipped c.id)
  Procedure.report .error (c.skip.fill [c.id.display])

/-- **The run of a check.** Its independence is found with the actor of the run, and an independent
check is then examined without any; another one is skipped where there is no actor. -/
def run (c : Check) (actor : Option Actor) : Procedure Unit := do
  if ← c.independent.forRun actor then c.examine none
  else
    match actor with
    | none => c.skipRun
    | some actor => c.examine (some actor)

/-- The run for an actor. -/
def runFor (c : Check) (actor : Actor) : Procedure Unit := c.run (some actor)

/-- The run without an actor. -/
def runAlone (c : Check) : Procedure Unit := c.run none

end QuestCheck.Check
