import QuestCheck.Dict
import QuestCheck.Json

/-!
# Reading values out of JSON

* `Json.truth?`, `Json.textValue?`, `Json.nullable?`;
* `Json.dict?`: an object as a dictionary, the last member of a key counting;
* `Json.slots?`: a record, written as an object or as an array of its fields in order;
  `Json.readSlot` reads one of its fields.
-/

namespace QuestCheck.Json

variable {α : Type}

/-- A truth value. -/
def truth? : Json → Option Bool
  | .bool b => some b
  | _ => none

/-- A text, without halves of surrogate pairs. -/
def textValue? : Json → Option String
  | .string ps => text? ps
  | _ => none

/-- A value, or null in its place. -/
def nullable? (read : Json → Option α) : Json → Option (Option α)
  | .null => some none
  | v => (read v).map some

/-- The members of an object, whose keys have to be texts. -/
def members? (members : List (List Piece × Json)) : Option (List (String × Json)) :=
  members.mapM fun m => (text? m.1).map (·, m.2)

/-- An object as a dictionary. -/
def dict? (read : Json → Option α) : Json → Option (Dict α)
  | .object members => do
    let pairs ← (← members? members).mapM fun m => (read m.2).map (m.1, ·)
    return Dict.ofPairs pairs
  | _ => none

/-- The value of a key that stands at most once. -/
def slot? (members : List (String × Json)) (key : String) : Option (Option Json) :=
  match members.filter (·.1 == key) with
  | [] => some none
  | [m] => some (some m.2)
  | _ => none

/-- The values of the fields of a record, in their order. In an object, a field stands at most once
and may be missing; where the record is `closed`, no other key stands there. An array holds the
fields in order, and at least the `required` first ones. -/
def slots? (fields : List String) (required : Nat) (closed : Bool) :
    Json → Option (List (Option Json))
  | .object members => do
    let members ← members? members
    if closed && !members.all (·.1 ∈ fields) then none
    else fields.mapM (slot? members)
  | .array elements =>
    if required ≤ elements.length ∧ elements.length ≤ fields.length then
      some (elements.map some ++ List.replicate (fields.length - elements.length) none)
    else none
  | _ => none

/-- The value of a field: a missing one stands for `missing`, if that is a value, and a written one
has to be readable. -/
def readSlot (missing : Option α) (read : Json → Option α) : Option Json → Option α
  | none => missing
  | some v => read v

end QuestCheck.Json
