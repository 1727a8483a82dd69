import QuestCheck.Json

/-!
# Writing JSON

A value is written without blanks. In a string, quotes, backslashes and controls are escaped and
everything else is written as it is.

* `Json.print`, and `Json.quote` for texts;
* `escape_of_plain`: a plain character is written as it is.
-/

namespace QuestCheck.Json

/-- A hexadecimal digit, in lower case. -/
def hexDigit (n : Nat) : Char := Nat.digitChar n

/-- A UTF-16 unit as an escape with four digits. -/
def unitEscape (n : Nat) : List Char :=
  ['\\', 'u', hexDigit (n / 0x1000 % 16), hexDigit (n / 0x100 % 16), hexDigit (n / 0x10 % 16),
    hexDigit (n % 16)]

/-- A character of a string. -/
def escape (c : Char) : List Char :=
  if c = '"' then ['\\', '"']
  else if c = '\\' then ['\\', '\\']
  else if c = '\x08' then ['\\', 'b']
  else if c = '\t' then ['\\', 't']
  else if c = '\n' then ['\\', 'n']
  else if c = '\x0c' then ['\\', 'f']
  else if c = '\r' then ['\\', 'r']
  else if c.toNat < 0x20 then unitEscape c.toNat
  else [c]

/-- A piece of a string. -/
def printPiece : Piece → List Char
  | .char c => escape c
  | .half unit => unitEscape unit

/-- A string in quotes. -/
def printString (ps : List Piece) : List Char := '"' :: ps.flatMap printPiece ++ ['"']

mutual

/-- The written form of a value, in front of what follows it. -/
def printBefore : Json → List Char → List Char
  | .null, rest => "null".toList ++ rest
  | .bool true, rest => "true".toList ++ rest
  | .bool false, rest => "false".toList ++ rest
  | .number spelling, rest => spelling ++ rest
  | .string ps, rest => printString ps ++ rest
  | .array elements, rest => '[' :: printElements elements (']' :: rest)
  | .object members, rest => '\x7b' :: printMembers members ('\x7d' :: rest)

/-- The elements of an array, with commas between them. -/
def printElements : List Json → List Char → List Char
  | [], rest => rest
  | [v], rest => printBefore v rest
  | v :: w :: vs, rest => printBefore v (',' :: printElements (w :: vs) rest)

/-- The members of an object, with commas between them. -/
def printMembers : List (List Piece × Json) → List Char → List Char
  | [], rest => rest
  | [(key, v)], rest => printString key ++ ':' :: printBefore v rest
  | (key, v) :: m :: ms, rest =>
    printString key ++ ':' :: printBefore v (',' :: printMembers (m :: ms) rest)

end

/-- The written form of a value. -/
def print (v : Json) : String := String.ofList (printBefore v [])

/-- The written form of a text. -/
def quote (s : String) : String := print (text s)

theorem escape_of_plain {c : Char} (hq : c ≠ '"') (hb : c ≠ '\\') (h : 0x20 ≤ c.toNat) :
    escape c = [c] := by
  have h8 : c ≠ '\x08' := by rintro rfl; exact absurd h (by decide)
  have h9 : c ≠ '\t' := by rintro rfl; exact absurd h (by decide)
  have ha : c ≠ '\n' := by rintro rfl; exact absurd h (by decide)
  have hc : c ≠ '\x0c' := by rintro rfl; exact absurd h (by decide)
  have hd : c ≠ '\r' := by rintro rfl; exact absurd h (by decide)
  simp [escape, hq, hb, h8, h9, ha, hc, hd, Nat.not_lt.mpr h]

end QuestCheck.Json
