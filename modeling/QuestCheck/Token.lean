import QuestCheck.Defect
import QuestCheck.Text.Blank
import QuestCheck.Text.Cut
import QuestCheck.Text.Name

/-!
# Tokens

An instruction is cut at the blanks outside double quotes. Quotes may open anywhere in a token;
inside them a backslash before a quote or a backslash takes its meaning away, and before any other
character it stands for itself.

* `Token`, with the place where its first quote opened;
* `Token.scan`: the tokens of a text, read from right to left so that each character is put in
  front of what follows it;
* `Token.field?`: the key and the value of a token that is a named field;
-/

namespace QuestCheck

/-- A token: its text without the quoting marks, and how many characters of it stand before its
first quote, if it has one. -/
structure Token where
  text : List Char
  openedAt : Option Nat
  deriving DecidableEq, Repr

namespace Token

/-- The token without text and without quotes. -/
def empty : Token := ⟨[], none⟩

/-- One more unquoted or quoted character in front. -/
def push (c : Char) (t : Token) : Token := ⟨c :: t.text, t.openedAt.map (· + 1)⟩

/-- One more quote in front: it is now the first. -/
def openQuote (t : Token) : Token := { t with openedAt := some 0 }

/-- What a pair of a backslash and a character stands for inside quotes. -/
def escaped (c : Char) : List Char := if c = '"' ∨ c = '\\' then [c] else ['\\', c]

/-- What is found from a place on: the token, or the rest of one, that begins there, and the
tokens after it. -/
structure Found where
  here : Option Token
  later : List Token
  deriving DecidableEq, Repr

namespace Found

/-- Nothing is found. -/
def nothing : Found := ⟨none, []⟩

/-- All tokens. -/
def tokens (f : Found) : List Token := f.here.toList ++ f.later

/-- The token that begins here, without text if there is none yet. -/
def current (f : Found) : Token := f.here.getD empty

/-- The current token, changed; there is one from now on. -/
def modify (g : Token → Token) (f : Found) : Found := ⟨some (g f.current), f.later⟩

/-- A blank in front: no token begins here. -/
def separate (f : Found) : Found := ⟨none, f.tokens⟩

end Found

/-- Where a place of a text lies: outside quotes, inside them, or inside them after a backslash. -/
inductive Place where
  | plain
  | quoted
  | escaping
  deriving DecidableEq, Repr

/-- What is found in a text from a place on. -/
def find : Place → List Char → Except Defect Found
  | .plain, [] => .ok .nothing
  | .quoted, [] => .error .unterminatedQuote
  | .escaping, [] => .error .danglingEscape
  | .plain, c :: rest =>
    if c = '"' then (find .quoted rest).map (.modify openQuote)
    else if Text.isBlank c then (find .plain rest).map .separate
    else (find .plain rest).map (.modify (push c))
  | .quoted, c :: rest =>
    if c = '"' then (find .plain rest).map (.modify id)
    else if c = '\\' then find .escaping rest
    else (find .quoted rest).map (.modify (push c))
  | .escaping, c :: rest =>
    (find .quoted rest).map (.modify fun t => (escaped c).foldr push t)

/-- The tokens of a text. -/
def scan (text : List Char) : Except Defect (List Token) := (find .plain text).map Found.tokens

/-- The key and the value of a named field: the first colon is not preceded by a quote, and what
stands before it is a key. -/
def field? (t : Token) : Option (String × String) :=
  match Text.cutAt ':' t.text with
  | none => none
  | some (key, value) =>
    if t.openedAt.any (· < key.length) then none
    else if Text.isKey (String.ofList key) then some (String.ofList key, String.ofList value)
    else none

/-! ## Equations of the scan -/

section Equations

variable (rest : List Char)

theorem find_openQuote :
    find .plain ('"' :: rest) = (find .quoted rest).map (.modify openQuote) := rfl

theorem find_closeQuote : find .quoted ('"' :: rest) = (find .plain rest).map (.modify id) := rfl

theorem find_backslash : find .quoted ('\\' :: rest) = find .escaping rest := rfl

theorem find_blank {c : Char} (h : Text.isBlank c = true) :
    find .plain (c :: rest) = (find .plain rest).map .separate := by
  have hq : c ≠ '"' := by
    rintro rfl
    exact absurd h (by decide)
  simp [find, hq, h]

theorem find_plain {c : Char} (h : Text.isBlank c = false) (hq : c ≠ '"') :
    find .plain (c :: rest) = (find .plain rest).map (.modify (push c)) := by
  simp [find, hq, h]

theorem find_quoted {c : Char} (hq : c ≠ '"') (hb : c ≠ '\\') :
    find .quoted (c :: rest) = (find .quoted rest).map (.modify (push c)) := by
  simp [find, hq, hb]

end Equations

end Token

end QuestCheck
