/-!
# Faults

The four ways in which loading or running a check fails.

* `Fault` with its stable `code` and its one-sentence `message`;
* `Fault.IsMalformed`: the only fault that loading raises.
-/

namespace QuestCheck

/-- Why a script could not be loaded or a check could not be run. -/
inductive Fault where
  /-- The written form of an instruction, or of a suite, is wrong. -/
  | malformed (subject : String) (reason : String)
  /-- A value needs an actor, and the run has none. -/
  | actorMissing (argument : String)
  /-- A condition has no outcome. -/
  | unevaluable (condition : String) (reason : String)
  /-- A value found at run time is missing or is not of the kind asked for. -/
  | unusable (argument : String) (reason : String)
  deriving DecidableEq, Repr

namespace Fault

/-- The stable code of a fault. -/
def code : Fault → String
  | malformed .. => "INSTRUCTION_FORMAT"
  | actorMissing .. => "MISSING_CONTEXT"
  | unevaluable .. => "PREDICATE_EVALUATION"
  | unusable .. => "RESOLVED_VALUE"

/-- The sentence that names the offending item. -/
def message : Fault → String
  | malformed subject reason => s!"Instruction \"{subject}\" is malformed: {reason}"
  | actorMissing argument =>
    s!"Argument \"{argument}\" requires an actor context, but none was given."
  | unevaluable condition reason =>
    s!"Condition \"{condition}\" could not be evaluated: {reason}"
  | unusable argument reason =>
    s!"Argument \"{argument}\" resolved to an unusable value: {reason}"

/-- The fault is about the written form. -/
def IsMalformed (f : Fault) : Prop := ∃ subject reason, f = malformed subject reason

theorem isMalformed_iff_code {f : Fault} : f.IsMalformed ↔ f.code = "INSTRUCTION_FORMAT" := by
  cases f <;> simp [IsMalformed, code]

end Fault

end QuestCheck
