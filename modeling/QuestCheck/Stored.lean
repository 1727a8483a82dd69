import QuestCheck.Json.Decode
import QuestCheck.Json.Parse
import QuestCheck.Json.Print
import QuestCheck.World

/-!
# Stored forms

Actors, qualified names, tables and worlds are stored as JSON texts.

* `toJson` and `ofJson?` for each of them;
* `Stored.read`, with `Stored.Flaw`, why a text is no stored value, and `Stored.write`.
-/

namespace QuestCheck

open Json

variable {α : Type}

/-- A dictionary as an object, in the order of its keys. -/
def Dict.toJson (write : α → Json) (d : Dict α) : Json :=
  .object (d.toList.map fun p => (pieces p.1, write p.2))

/-! ## Actors and names -/

/-- An actor is a record of its identifier. -/
def Actor.toJson (a : Actor) : Json := .object [(pieces "id", text a.id)]

/-- The actor of a record. -/
def Actor.ofJson? (v : Json) : Option Actor := do
  match ← slots? ["id"] 1 false v with
  | [id] => return ⟨← readSlot none textValue? id⟩
  | _ => none

/-- A qualified name is a record of its package, which may be null, and its name. -/
def QualifiedName.toJson (q : QualifiedName) : Json :=
  .object [(pieces "package", (q.package.map text).getD .null), (pieces "name", text q.name)]

/-- The qualified name of a record. -/
def QualifiedName.ofJson? (v : Json) : Option QualifiedName := do
  match ← slots? ["package", "name"] 2 false v with
  | [package, name] =>
    return ⟨← readSlot (some none) (nullable? textValue?) package,
      ← readSlot none textValue? name⟩
  | _ => none

/-! ## Tables -/

/-- The outcomes of a condition are a record of the default, which may be null, and of those of the
actors. -/
def Conditions.Entry.toJson (e : Conditions.Entry) : Json :=
  .object [(pieces "default", (e.default.map Json.bool).getD .null),
    (pieces "actors", e.actors.toJson .bool)]

/-- The outcomes of a record, of which any field may be missing. -/
def Conditions.Entry.ofJson? (v : Json) : Option Conditions.Entry := do
  match ← slots? ["default", "actors"] 0 false v with
  | [default, actors] =>
    return ⟨← readSlot (some none) (nullable? truth?) default,
      ← readSlot (some ∅) (dict? truth?) actors⟩
  | _ => none

/-- A table of conditions is an object. -/
def Conditions.toJson (t : Conditions) : Json := t.entries.toJson Entry.toJson

/-- The table of an object. -/
def Conditions.ofJson? (v : Json) : Option Conditions := (dict? Entry.ofJson? v).map Conditions.mk

/-- A table of variables is a record of the global values and of those of the actors. -/
def Variables.toJson (t : Variables) : Json :=
  .object [(pieces "global", t.global.toJson text),
    (pieces "actors", t.actors.toJson fun values => values.toJson text)]

/-- The table of a record, of which any field may be missing. -/
def Variables.ofJson? (v : Json) : Option Variables := do
  match ← slots? ["global", "actors"] 0 false v with
  | [global, actors] =>
    return ⟨← readSlot (some ∅) (dict? textValue?) global,
      ← readSlot (some ∅) (dict? (dict? textValue?)) actors⟩
  | _ => none

/-- The world of a record, of which any field may be missing and which has no other fields. -/
def World.ofJson? (v : Json) : Option World := do
  match ← slots? ["conditions", "variables"] 0 true v with
  | [conditions, vars] =>
    return ⟨← readSlot (some .empty) Conditions.ofJson? conditions,
      ← readSlot (some .empty) Variables.ofJson? vars⟩
  | _ => none

/-! ## Texts -/

namespace Stored

/-- Why a text is no stored value. -/
inductive Flaw where
  | notJson
  | wrongShape
  deriving DecidableEq, Repr

/-- The value of a text. -/
def read (ofJson? : Json → Option α) (s : String) : Except Flaw α :=
  match Json.parse s with
  | none => .error .notJson
  | some v =>
    match ofJson? v with
    | none => .error .wrongShape
    | some a => .ok a

/-- The text of a value. -/
def write (toJson : α → Json) (a : α) : String := (toJson a).print

end Stored

end QuestCheck
