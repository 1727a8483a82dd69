/-!
# JSON values

* `Json`: numbers keep their spelling, and objects all their members in order;
* `Json.Piece`: a string is made of characters and of surrogates without a partner, which only
  escapes can write; `Json.text?` is the text of a string that has none.
-/

namespace QuestCheck

/-- A piece of a string. -/
inductive Json.Piece where
  | char (c : Char)
  /-- A UTF-16 surrogate that is not one half of a pair. -/
  | half (unit : Nat)
  deriving DecidableEq, Repr

/-- A JSON value. -/
inductive Json where
  | null
  | bool (b : Bool)
  | number (spelling : List Char)
  | string (pieces : List Json.Piece)
  | array (elements : List Json)
  | object (members : List (List Json.Piece × Json))

namespace Json

/-- The pieces of a text. -/
def pieces (s : String) : List Piece := s.toList.map .char

/-- The characters of pieces without surrogates. -/
def chars? : List Piece → Option (List Char)
  | [] => some []
  | .char c :: rest => (chars? rest).map (c :: ·)
  | .half _ :: _ => none

/-- The text of pieces without surrogates. -/
def text? (ps : List Piece) : Option String := (chars? ps).map String.ofList

/-- A text as a value. -/
def text (s : String) : Json := .string (pieces s)

theorem chars?_map_char (cs : List Char) : chars? (cs.map .char) = some cs := by
  induction cs with
  | nil => rfl
  | cons c cs ih => simp [chars?, ih]

/-- **A text has the pieces of itself.** -/
@[simp] theorem text?_pieces (s : String) : text? (pieces s) = some s := by
  simp [text?, pieces, chars?_map_char]

end Json

end QuestCheck
