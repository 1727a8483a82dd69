import QuestCheck.Parameter
import QuestCheck.Template

/-!
# Checks

A check says that a condition should have an expected outcome, and what to report.

* `Check`;
* the values that stand for what is not written: `expectedByDefault`, `flaggedIndependent`,
  `unflaggedIndependent`, and the messages `failureByDefault`, `successByDefault`, `skipMessage`;
* `parse_failureByDefault` and the like: the texts that the default messages are read from;
* `holes_failureByDefault` and the like: each default message uses all the values it is given.
-/

namespace QuestCheck

/-- A check. Where `independent` holds it is run without regard to the actor. -/
structure Check where
  id : QualifiedName
  condition : Parameter QualifiedName
  expected : Parameter Bool
  independent : OptionalParameter Bool
  failure : Parameter Template
  success : Parameter Template
  skip : Template

namespace Check

/-- The expected outcome where none is written. -/
def expectedByDefault : Bool := true

/-- The independence of a check with the bare flag. -/
def flaggedIndependent : Bool := true

/-- The independence of a check without the flag. -/
def unflaggedIndependent : Bool := false

/-- A failure is told with the check, the condition, the expected and the actual outcome. -/
def failureArity : Nat := 4

/-- A success is told with the check and the condition. -/
def successArity : Nat := 2

/-- A skipped check is told with the check. -/
def skipArity : Nat := 1

/-- Plain text as parts of a message. -/
def plain (s : String) : List Part := s.toList.map .char

/-- The message of a failure where none is written. -/
def failureByDefault : Template :=
  ⟨plain "Test '" ++ .hole :: plain "' on condition '" ++ .hole :: plain "' failed. Expected '" ++
    .hole :: plain "', but was '" ++ .hole :: plain "'"⟩

/-- The message of a success where none is written. -/
def successByDefault : Template :=
  ⟨plain "Test '" ++ .hole :: plain "' on condition '" ++ .hole :: plain "' succeeded."⟩

/-- The message of a check that is not run. -/
def skipMessage : Template :=
  ⟨plain "Test '" ++ .hole :: plain "' skipped due to profile missing."⟩

theorem parse_failureByDefault :
    Template.parse failureArity
      "Test '%s' on condition '%s' failed. Expected '%s', but was '%s'" =
        .ok failureByDefault := by
  rfl

theorem parse_successByDefault :
    Template.parse successArity "Test '%s' on condition '%s' succeeded." =
      .ok successByDefault := by
  rfl

theorem parse_skipMessage :
    Template.parse skipArity "Test '%s' skipped due to profile missing." = .ok skipMessage := by
  rfl

theorem holes_failureByDefault : failureByDefault.holes = failureArity := by decide

theorem holes_successByDefault : successByDefault.holes = successArity := by decide

theorem holes_skipMessage : skipMessage.holes = skipArity := by decide

end Check

end QuestCheck
