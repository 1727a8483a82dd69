import QuestCheck.Json.Lexeme

/-!
# Reading JSON

The value of a text is built lexeme by lexeme; arrays and objects that are still open wait on a
stack, so that values may be nested to any depth.

* `Builder.step`: one more lexeme;
* `Json.parse`: the value of a text.
-/

namespace QuestCheck.Json

namespace Builder

/-- An open array or object; what it holds already stands in reverse. -/
inductive Frame where
  | array (done : List Json)
  | object (done : List (List Piece × Json)) (key : List Piece)

/-- What may come next. -/
inductive Focus where
  /-- A value. -/
  | value
  /-- The first element of an array, or its end. -/
  | firstElement
  /-- The first key of an object, or its end. -/
  | firstKey
  /-- A key. -/
  | key (done : List (List Piece × Json))
  /-- The colon after a key. -/
  | colon (done : List (List Piece × Json)) (key : List Piece)
  /-- What may follow a complete value. -/
  | complete (v : Json)

/-- The open arrays and objects, the innermost first, and what may come next. -/
structure State where
  stack : List Frame
  focus : Focus

/-- A lexeme that starts a value. -/
def open? (stack : List Frame) : Lexeme → Option State
  | .null => some ⟨stack, .complete .null⟩
  | .bool b => some ⟨stack, .complete (.bool b)⟩
  | .number spelling => some ⟨stack, .complete (.number spelling)⟩
  | .string pieces => some ⟨stack, .complete (.string pieces)⟩
  | .mark '[' => some ⟨stack, .firstElement⟩
  | .mark '\x7b' => some ⟨stack, .firstKey⟩
  | .mark _ => none

/-- A lexeme that is a key. -/
def key? (stack : List Frame) (done : List (List Piece × Json)) : Lexeme → Option State
  | .string pieces => some ⟨stack, .colon done pieces⟩
  | _ => none

/-- A mark after a complete value: a comma goes on with the innermost open array or object, and its
closing mark completes it. -/
def close? (v : Json) : List Frame → Char → Option State
  | .array done :: stack, ',' => some ⟨.array (v :: done) :: stack, .value⟩
  | .array done :: stack, ']' => some ⟨stack, .complete (.array (v :: done).reverse)⟩
  | .object done key :: stack, ',' => some ⟨stack, .key ((key, v) :: done)⟩
  | .object done key :: stack, '\x7d' =>
    some ⟨stack, .complete (.object ((key, v) :: done).reverse)⟩
  | _, _ => none

/-- One more lexeme. -/
def step (s : State) (lexeme : Lexeme) : Option State :=
  match s.focus with
  | .value => open? s.stack lexeme
  | .firstElement =>
    if lexeme = .mark ']' then some ⟨s.stack, .complete (.array [])⟩
    else open? (.array [] :: s.stack) lexeme
  | .firstKey =>
    if lexeme = .mark '\x7d' then some ⟨s.stack, .complete (.object [])⟩
    else key? s.stack [] lexeme
  | .key done => key? s.stack done lexeme
  | .colon done key =>
    if lexeme = .mark ':' then some ⟨.object done key :: s.stack, .value⟩ else none
  | .complete v =>
    match lexeme with
    | .mark c => close? v s.stack c
    | _ => none

/-- The value at the end of the lexemes, where nothing may be open. -/
def finish : State → Option Json
  | ⟨[], .complete v⟩ => some v
  | _ => none

end Builder

/-- The value of a text. -/
def parse (text : String) : Option Json := do
  let lexemes ← Lexeme.scan text.toList
  Builder.finish (← lexemes.foldlM Builder.step ⟨[], .value⟩)

end QuestCheck.Json
