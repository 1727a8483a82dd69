import QuestCheck.Check
import QuestCheck.Inspect

/-!
# Inspecting checks

A check and its parts are shown by their structure. What a rule would find is not shown.

* `Check.inspect`, `Check.inspectRunnable`, and `inspect` for the parts.
-/

namespace QuestCheck

variable {α : Type}

/-- A qualified name, as a record of the given kind. -/
def QualifiedName.inspect (kind : String) (q : QualifiedName) : String :=
  Inspect.record kind
    [("package", Inspect.option (q.package.map Inspect.text)), ("name", Inspect.text q.name)]

/-- A run of plain text, or a hole. -/
def Template.Segment.inspect : Template.Segment → String
  | literal text => Inspect.choice "Literal" (Inspect.text text)
  | hole => "Placeholder"

/-- A message, as it is written and in its segments. -/
def Template.inspect (t : Template) : String :=
  Inspect.record "MessageTemplate"
    [("raw", Inspect.text t.raw), ("segments", Inspect.list (t.segments.map Segment.inspect)),
      ("placeholders", Nat.repr t.holes)]

/-- A parameter, with its value where that is fixed. -/
def Parameter.inspect (inspectValue : α → String) : Parameter α → String
  | fixed value => Inspect.choice "Static" (inspectValue value)
  | computed _ => Inspect.choice "Contextual" ".."

/-- A parameter that need not be declared, with the value that stands for it. -/
def OptionalParameter.inspect (inspectValue : α → String) (p : OptionalParameter α) : String :=
  Inspect.record "FlagArgument"
    [("declared", Inspect.option (p.declared.map (Parameter.inspect inspectValue))),
      ("default", inspectValue p.fallback)]

namespace Check

/-- What a check declares. -/
def inspect (c : Check) : String :=
  Inspect.record "ConditionTestDecl"
    [("id", c.id.inspect "InstructionId"),
      ("condition", c.condition.inspect (QualifiedName.inspect "PredicateId")),
      ("expected", c.expected.inspect Truth.text),
      ("independent", c.independent.inspect Truth.text),
      ("failure_message", c.failure.inspect Template.inspect),
      ("success_message", c.success.inspect Template.inspect),
      ("skip_message", c.skip.inspect)]

/-- A check that can be run: what it declares, its surroundings not shown. -/
def inspectRunnable (c : Check) : String :=
  Inspect.openRecord "AssertionTest" [("decl", c.inspect)]

end Check

end QuestCheck
