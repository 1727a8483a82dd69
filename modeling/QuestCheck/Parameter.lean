import QuestCheck.Procedure

/-!
# Parameters

A value of a check is fixed when the check is loaded, or is found anew for every run by a rule that
is given the actor, if there is one.

* `Parameter` and `Parameter.forActor`;
* `OptionalParameter`: a parameter that need not be declared, and the value that stands for it then.
-/

namespace QuestCheck

variable {α : Type}

/-- A value that is fixed, or that a rule finds for an actor. -/
inductive Parameter (α : Type) where
  | fixed (value : α)
  | computed (rule : Option Actor → Procedure α)

namespace Parameter

/-- The value for an actor, or without one. -/
def forRun (p : Parameter α) (actor : Option Actor) : Procedure α :=
  match p with
  | fixed value => .done value
  | computed rule => rule actor

/-- The value does not hang on the run. -/
def isFixed : Parameter α → Bool
  | fixed _ => true
  | computed _ => false

/-- A value that only an actor has: without one, the named argument fails. -/
def forActor (argument : String) (rule : Actor → Procedure α) : Parameter α :=
  computed fun
    | some actor => rule actor
    | none => .fail (.actorMissing argument)

@[simp] theorem forRun_fixed (value : α) (actor : Option Actor) :
    (fixed value).forRun actor = .done value := rfl

@[simp] theorem forRun_computed (rule : Option Actor → Procedure α) (actor : Option Actor) :
    (computed rule).forRun actor = rule actor := rfl

end Parameter

/-- A parameter that need not be declared. -/
structure OptionalParameter (α : Type) where
  declared : Option (Parameter α)
  fallback : α

namespace OptionalParameter

/-- The declared value for an actor or without one, or else the value that stands for it. -/
def forRun (p : OptionalParameter α) (actor : Option Actor) : Procedure α :=
  match p.declared with
  | some parameter => parameter.forRun actor
  | none => .done p.fallback

/-- The parameter is declared. -/
def isDeclared (p : OptionalParameter α) : Bool := p.declared.isSome

end OptionalParameter

end QuestCheck
