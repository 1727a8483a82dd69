import QuestCheck.Check
import QuestCheck.Instruction.Field

/-!
# Compiling checks

A check is written `test <condition> [expected:<truth>] [independent[:<truth>]] [fail:<message>]
[success:<message>]`.

* `Check.compile`: the check that an instruction says;
* `Check.build` also leaves the event of a compiled check.
-/

namespace QuestCheck.Check

/-- The kind of the instructions that say checks. -/
def kind : String := "test"

/-- The key of the flag for checks without regard to the actor. -/
def independentKey : String := "independent"

/-- The keys of all fields of a check. -/
def knownKeys : List String := ["expected", independentKey, "fail", "success"]

/-- A condition that is fixed has to be known. -/
def requireKnown (i : Instruction) : Parameter QualifiedName → Procedure Unit
  | .fixed condition => do
    unless ← Procedure.knowsCondition condition do
      i.reject (.unknownCondition condition)
  | .computed _ => .done ()

/-- The check that an instruction says: other fields are warned of, other tokens rejected, and then
the condition, the expected outcome, the independence and the messages are read in this order. -/
def compile (i : Instruction) : Procedure Check := do
  if i.kind = kind then
    i.warnOthers knownKeys
    i.rejectOthers 1 [independentKey]
    let condition ← i.positionalParameter 0 "condition" QualifiedName.parse
    requireKnown i condition
    let expected ← i.namedParameter "expected" expectedByDefault Truth.parse
    let independent ←
      i.flagParameter independentKey flaggedIndependent unflaggedIndependent Truth.parse
    let failure ← i.namedParameter "fail" failureByDefault (Template.parse failureArity)
    let success ← i.namedParameter "success" successByDefault (Template.parse successArity)
    return { id := i.id, condition, expected, independent, failure, success, skip := skipMessage }
  else i.reject (.wrongKind kind i.kind)

/-- The check that an instruction says, with an event when it is compiled. -/
def build (i : Instruction) : Procedure Check := do
  let check ← compile i
  Procedure.note (.compiled check.id i.source)
  return check

end QuestCheck.Check
