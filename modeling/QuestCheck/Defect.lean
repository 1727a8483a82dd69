import QuestCheck.Fault
import QuestCheck.Misreading
import QuestCheck.QualifiedName

/-!
# Defects of written instructions

Everything that can be wrong with the written form of a suite, of an instruction, or of the fields
that a check asks for.

* `Defect` and its `message`;
* `Rejection`: a defect and the place or instruction that has it, with the `fault` that it raises.
-/

namespace QuestCheck

/-- What is wrong with a written form. -/
inductive Defect where
  /-- The text ends in a backslash inside quotes. -/
  | danglingEscape
  /-- The text ends inside quotes. -/
  | unterminatedQuote
  /-- There is no token. -/
  | noKind
  /-- The first token has quotes. -/
  | badKind (kind : String)
  /-- A named field has nothing after its colon. -/
  | emptyField (key : String)
  /-- A named field stands twice. -/
  | repeatedField (key : String)
  /-- A line of a suite has no colon. -/
  | noColon
  /-- What stands before the colon of a line is no name. -/
  | badLineName (name : String)
  /-- The name of a line stands on an earlier line too. -/
  | repeatedLineName (line : Nat)
  /-- The instruction is of another kind than the one asked for. -/
  | wrongKind (asked : String) (kind : String)
  /-- A positional field is missing. -/
  | missingField (field : String)
  /-- A token is neither a positional field nor a flag. -/
  | unexpectedToken (token : String)
  /-- The text of a field is no value of its kind. -/
  | misreadField (field : String) (cause : Misreading)
  /-- A field refers to a variable that is not known. -/
  | unknownVariable (field : String) (name : String)
  /-- The condition is not known. -/
  | unknownCondition (condition : QualifiedName)
  deriving DecidableEq, Repr

/-- The sentence that says what is wrong. -/
def Defect.message : Defect → String
  | danglingEscape => "Quoted value ends with a dangling escape."
  | unterminatedQuote => "Unterminated quoted value."
  | noKind => "Instruction is empty."
  | badKind kind => s!"Invalid instruction kind \"{kind}\"."
  | emptyField key => s!"Field \"{key}\" has no value."
  | repeatedField key => s!"Field \"{key}\" is declared twice."
  | noColon => "Expected \"<name>: <instruction>\"."
  | badLineName name => s!"Invalid instruction name \"{name}\"."
  | repeatedLineName line => s!"Instruction name is declared twice (line {line})."
  | wrongKind asked kind => s!"Expected a \"{asked}\" instruction, got \"{kind}\"."
  | missingField field => s!"Missing required {field}."
  | unexpectedToken token => s!"Unexpected token \"{token}\"."
  | misreadField field cause => "Field \"" ++ field ++ "\": " ++ cause.message
  | unknownVariable field name => s!"Field \"{field}\" references unknown variable \"{name}\"."
  | unknownCondition condition => "Unknown condition \"" ++ condition.display ++ "\"."

/-- A defect, and the instruction or the line that has it. -/
structure Rejection where
  subject : String
  defect : Defect
  deriving DecidableEq, Repr

namespace Rejection

/-- The fault of a rejected text. -/
def fault (r : Rejection) : Fault := .malformed r.subject r.defect.message

theorem isMalformed_fault (r : Rejection) : r.fault.IsMalformed := ⟨_, _, rfl⟩

end Rejection

end QuestCheck
