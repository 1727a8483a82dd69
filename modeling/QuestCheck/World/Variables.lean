import QuestCheck.Actor
import QuestCheck.Dict
import QuestCheck.Fault

/-!
# Tables of variables

A table fixes values of variables, some for all and some for single actors. A variable that any
actor has a value of is bound to actors: it has no value without one, not even a global value.

* `Variables`, `setGlobal`, `setActor`;
* `value`, and `Gap`, why there is none; `resolve` and `knows`;
* `isActorBound_iff`: a variable is bound to actors if some actor has a value of it.
-/

namespace QuestCheck

/-- The values of variables: global ones, and those of each actor. -/
structure Variables where
  global : Dict String
  actors : Dict (Dict String)
  deriving DecidableEq

namespace Variables

/-- Why a variable has no value. -/
inductive Gap where
  | needsActor
  | noValue (actor : Actor)
  | noGlobal
  deriving DecidableEq, Repr

/-- A reference to a variable, as it is written. -/
def reference (name : String) : String := "%" ++ name ++ "%"

/-- The fault of a variable without a value. -/
def Gap.fault (name : String) : Gap → Fault
  | needsActor => .actorMissing (reference name)
  | noValue actor => .unusable (reference name) ("no value for actor \"" ++ actor.id ++ "\"")
  | noGlobal => .unusable (reference name) "no global value"

/-- No variable. -/
def empty : Variables := ⟨∅, ∅⟩

/-- The values of an actor, none where it is not in the table. -/
def ofActor (t : Variables) (actor : String) : Dict String := t.actors[actor]?.getD ∅

/-- The table with another global value. -/
def setGlobal (t : Variables) (name value : String) : Variables :=
  { t with global := t.global.insert name value }

/-- The table with another value for an actor. -/
def setActor (t : Variables) (actor name value : String) : Variables :=
  { t with actors := t.actors.insert actor ((t.ofActor actor).insert name value) }

/-- Some actor has a value of the variable. -/
def isActorBound (t : Variables) (name : String) : Bool :=
  t.actors.any fun _ values => values.contains name

/-- The value of a variable for an actor, or without one: the actor's own counts before the global
one. -/
def value (t : Variables) (actor : Option Actor) (name : String) : Except Gap String :=
  match actor with
  | none =>
    if t.isActorBound name then .error .needsActor
    else
      match t.global[name]? with
      | some v => .ok v
      | none => .error .noGlobal
  | some a =>
    match (t.ofActor a.id)[name]? <|> t.global[name]? with
    | some v => .ok v
    | none => .error (.noValue a)

/-- The value of a variable, or the fault that there is none. -/
def resolve (t : Variables) (actor : Option Actor) (name : String) : Except Fault String :=
  (t.value actor name).mapError (·.fault name)

/-- The variable is in the table. -/
def knows (t : Variables) (name : String) : Bool := t.global.contains name || t.isActorBound name

theorem global_setGlobal_self (t : Variables) (name v : String) :
    (t.setGlobal name v).global[name]? = some v :=
  Dict.getElem?_insert_self ..

theorem global_setGlobal_of_ne (t : Variables) {name other : String} (h : name ≠ other)
    (v : String) : (t.setGlobal name v).global[other]? = t.global[other]? :=
  Dict.getElem?_insert_of_ne _ h _

theorem ofActor_setActor_self (t : Variables) (actor name v : String) :
    (t.setActor actor name v).ofActor actor = (t.ofActor actor).insert name v := by
  simp [ofActor, setActor]

theorem ofActor_setActor_of_ne (t : Variables) {actor other : String} (h : actor ≠ other)
    (name v : String) : (t.setActor actor name v).ofActor other = t.ofActor other := by
  unfold ofActor setActor
  rw [Dict.getElem?_insert_of_ne _ h]

theorem mem_ofActor_iff {t : Variables} {actor name : String} :
    name ∈ t.ofActor actor ↔ ∃ values, t.actors[actor]? = some values ∧ name ∈ values := by
  unfold ofActor
  cases t.actors[actor]? <;> simp

theorem isActorBound_iff {t : Variables} {name : String} :
    t.isActorBound name = true ↔ ∃ actor, name ∈ t.ofActor actor := by
  unfold isActorBound
  simp only [Dict.any_eq_true_iff, mem_ofActor_iff, Std.ExtTreeMap.contains_iff_mem]

end Variables

end QuestCheck
