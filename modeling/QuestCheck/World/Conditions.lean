import QuestCheck.Actor
import QuestCheck.Dict
import QuestCheck.Fault
import QuestCheck.QualifiedName

/-!
# Tables of conditions

A table fixes outcomes of conditions, each with a default and with outcomes of its own for single
actors.

* `Conditions`, `setDefault`, `setActor`;
* `outcome`, and `Gap`, why there is none; `evaluate` and `knows`, by qualified name;
* `entries_setDefault_self`, `entries_setDefault_of_ne` and the like: a write changes one entry;
* `getElem?_entries`, `outcome_eq`, `knows_iff`: a table is looked up by its entries.
-/

namespace QuestCheck

/-- The outcomes of one condition: `default` counts without an actor, and for an actor without an
outcome of its own. -/
structure Conditions.Entry where
  default : Option Bool
  actors : Dict Bool
  deriving DecidableEq

/-- The outcomes of conditions, by their written names. -/
structure Conditions where
  entries : Dict Conditions.Entry
  deriving DecidableEq

namespace Conditions

/-- Why a condition has no outcome. -/
inductive Gap where
  | unknown
  | noOutcome (actor : Actor)
  | needsActor
  deriving DecidableEq, Repr

/-- The reason in words. -/
def Gap.reason : Gap → String
  | unknown => "unknown condition"
  | noOutcome actor => "no outcome for actor \"" ++ actor.id ++ "\""
  | needsActor => "requires an actor"

/-- No outcome. -/
def Entry.empty : Entry := ⟨none, ∅⟩

/-- The outcome of a condition for an actor, or without one. -/
def Entry.outcome (e : Entry) (actor : Option Actor) : Except Gap Bool :=
  match actor.bind (e.actors[·.id]?), e.default, actor with
  | some value, _, _ => .ok value
  | none, some value, _ => .ok value
  | none, none, some actor => .error (.noOutcome actor)
  | none, none, none => .error .needsActor

/-- No condition. -/
def empty : Conditions := ⟨∅⟩

/-- The outcomes of a condition, none where it is not in the table. -/
def entry (t : Conditions) (condition : String) : Entry := t.entries[condition]?.getD Entry.empty

/-- The table with another default for a condition. -/
def setDefault (t : Conditions) (condition : String) (value : Bool) : Conditions :=
  ⟨t.entries.insert condition { t.entry condition with default := some value }⟩

/-- The table with another outcome of a condition for an actor. -/
def setActor (t : Conditions) (condition actor : String) (value : Bool) : Conditions :=
  let e := t.entry condition
  ⟨t.entries.insert condition { e with actors := e.actors.insert actor value }⟩

/-- The number of conditions. -/
def size (t : Conditions) : Nat := t.entries.size

/-- The outcome of a condition for an actor, or without one. -/
def outcome (t : Conditions) (actor : Option Actor) (condition : String) : Except Gap Bool :=
  match t.entries[condition]? with
  | none => .error .unknown
  | some e => e.outcome actor

/-- The outcome of a condition, or the fault that there is none. -/
def evaluate (t : Conditions) (actor : Option Actor) (condition : QualifiedName) :
    Except Fault Bool :=
  (t.outcome actor condition.display).mapError fun gap => .unevaluable condition.display gap.reason

/-- The condition is in the table. -/
def knows (t : Conditions) (condition : QualifiedName) : Bool :=
  t.entries.contains condition.display

theorem knows_iff {t : Conditions} {id : QualifiedName} :
    t.knows id = true ↔ id.display ∈ t.entries := Std.ExtTreeMap.contains_iff_mem

theorem entries_setDefault_self (t : Conditions) (condition : String) (value : Bool) :
    (t.setDefault condition value).entries[condition]? =
      some { t.entry condition with default := some value } :=
  Dict.getElem?_insert_self ..

theorem entries_setDefault_of_ne (t : Conditions) {condition other : String} (h : condition ≠ other)
    (value : Bool) : (t.setDefault condition value).entries[other]? = t.entries[other]? :=
  Dict.getElem?_insert_of_ne _ h _

theorem entries_setActor_self (t : Conditions) (condition actor : String) (value : Bool) :
    (t.setActor condition actor value).entries[condition]? =
      some { t.entry condition with actors := (t.entry condition).actors.insert actor value } :=
  Dict.getElem?_insert_self ..

theorem entries_setActor_of_ne (t : Conditions) {condition other : String} (h : condition ≠ other)
    (actor : String) (value : Bool) :
    (t.setActor condition actor value).entries[other]? = t.entries[other]? :=
  Dict.getElem?_insert_of_ne _ h _

theorem entry_setActor (t : Conditions) (condition other name : String) (value : Bool) :
    (t.setActor condition other value).entry name =
      if name = condition then
        { t.entry condition with actors := (t.entry condition).actors.insert other value }
      else t.entry name := by
  by_cases hname : name = condition
  · subst hname
    rw [if_pos rfl, entry, entries_setActor_self, Option.getD_some]
  · rw [if_neg hname, entry, entries_setActor_of_ne t (Ne.symm hname), entry]

theorem getElem?_entries (t : Conditions) (name : String) :
    t.entries[name]? = if name ∈ t.entries then some (t.entry name) else none := by
  unfold entry
  cases hentry : t.entries[name]? with
  | none => rw [if_neg (Dict.getElem?_eq_none_iff.mp hentry)]
  | some e =>
    rw [if_pos (Dict.mem_iff_exists.mpr ⟨e, hentry⟩), Option.getD_some]

/-- The entry of a condition that is not in the table is empty. -/
theorem entry_of_not_mem {t : Conditions} {name : String} (h : name ∉ t.entries) :
    t.entry name = Entry.empty := by
  rw [entry, Dict.getElem?_eq_none_iff.mpr h, Option.getD_none]

/-- A condition that is not in the table has no outcome, and any other those of its entry. -/
theorem outcome_eq (t : Conditions) (actor : Option Actor) (name : String) :
    t.outcome actor name =
      if name ∈ t.entries then (t.entry name).outcome actor else .error .unknown := by
  unfold outcome
  rw [getElem?_entries]
  by_cases hname : name ∈ t.entries
  · rw [if_pos hname, if_pos hname]
  · rw [if_neg hname, if_neg hname]

end Conditions

end QuestCheck
