import QuestCheck.Json

/-!
# Lexemes of JSON

A text is read character by character: `Lexer.step` is the reading of one character, and
`Lexeme.scan` the lexemes of a whole text.

* `Lexeme`; `Lexer.Mode`: what the characters at hand are part of;
* `isNumber`: the spelling of numbers;
* `assemble`: pairs of surrogates are characters.
-/

namespace QuestCheck.Json

/-- A lexeme. -/
inductive Lexeme where
  /-- A brace, a bracket, a colon or a comma. -/
  | mark (c : Char)
  | null
  | bool (b : Bool)
  | number (spelling : List Char)
  | string (pieces : List Piece)
  deriving DecidableEq, Repr

/-! ## Words: literals and numbers -/

/-- The spelling without its first run of digits, where there is one. -/
def dropDigits? (cs : List Char) : Option (List Char) :=
  if (cs.takeWhile Char.isDigit).isEmpty then none else some (cs.dropWhile Char.isDigit)

/-- The integral part: a zero, or digits that do not start with one. -/
def dropIntegral? : List Char → Option (List Char)
  | '0' :: rest => some rest
  | cs => dropDigits? cs

/-- The fractional part, if there is one. -/
def dropFraction? : List Char → Option (List Char)
  | '.' :: rest => dropDigits? rest
  | cs => some cs

/-- The exponent, if there is one. -/
def dropExponent? : List Char → Option (List Char)
  | c :: rest =>
    if c = 'e' ∨ c = 'E' then
      match rest with
      | d :: digits => if d = '+' ∨ d = '-' then dropDigits? digits else dropDigits? rest
      | [] => none
    else some (c :: rest)
  | [] => some []

/-- A minus sign, if there is one. -/
def dropSign : List Char → List Char
  | '-' :: rest => rest
  | cs => cs

/-- The spelling of a number: an optional sign, digits without a needless zero in front, and an
optional fraction and exponent. -/
def isNumber (cs : List Char) : Bool :=
  (dropIntegral? (dropSign cs) >>= dropFraction? >>= dropExponent?) == some []

/-- The lexeme of a word. -/
def wordLexeme? (word : List Char) : Option Lexeme :=
  if word = "null".toList then some .null
  else if word = "true".toList then some (.bool true)
  else if word = "false".toList then some (.bool false)
  else if isNumber word then some (.number word)
  else none

/-! ## Strings -/

/-- A character as it is written in a string: itself, or a UTF-16 unit that an escape names. -/
inductive Written where
  | char (c : Char)
  | unit (n : Nat)
  deriving DecidableEq, Repr

/-- The first half of a pair of surrogates. -/
def isHighHalf (n : Nat) : Bool := 0xD800 ≤ n && n < 0xDC00

/-- The second half of a pair of surrogates. -/
def isLowHalf (n : Nat) : Bool := 0xDC00 ≤ n && n < 0xE000

/-- The character of a pair of surrogates. -/
def pairChar (high low : Nat) : Char :=
  Char.ofNat (0x10000 + (high - 0xD800) * 0x400 + (low - 0xDC00))

/-- The piece of a unit that is not the first half of a pair. -/
def unitPiece (n : Nat) : Piece :=
  if isHighHalf n || isLowHalf n then .half n else .char (Char.ofNat n)

/-- The pieces of a string: halves that stand together are one character. -/
def assemble : List Written → List Piece
  | [] => []
  | .char c :: rest => .char c :: assemble rest
  | .unit high :: .unit low :: rest =>
    if isHighHalf high && isLowHalf low then .char (pairChar high low) :: assemble rest
    else unitPiece high :: assemble (.unit low :: rest)
  | .unit n :: rest => unitPiece n :: assemble rest

/-- The character of a short escape. -/
def shortEscape? : Char → Option Char
  | '"' => some '"'
  | '\\' => some '\\'
  | '/' => some '/'
  | 'b' => some '\x08'
  | 'f' => some '\x0c'
  | 'n' => some '\n'
  | 'r' => some '\r'
  | 't' => some '\t'
  | _ => none

/-- The value of a hexadecimal digit. -/
def hexValue? (c : Char) : Option Nat :=
  if c.isDigit then some (c.toNat - '0'.toNat)
  else if 'a' ≤ c ∧ c ≤ 'f' then some (c.toNat - 'a'.toNat + 10)
  else if 'A' ≤ c ∧ c ≤ 'F' then some (c.toNat - 'A'.toNat + 10)
  else none

/-! ## The lexer -/

namespace Lexer

/-- What the next character is part of; what has been read of it stands in reverse. -/
inductive Mode where
  /-- Nothing is open. -/
  | between
  /-- A literal or a number. -/
  | word (done : List Char)
  /-- A string. -/
  | string (done : List Written)
  /-- A string, after a backslash. -/
  | escape (done : List Written)
  /-- A string, after `\u` and some hexadecimal digits. -/
  | unit (done : List Written) (digits : Nat) (value : Nat)
  deriving DecidableEq, Repr

/-- The mode, and the lexemes so far in reverse. -/
structure State where
  mode : Mode
  lexemes : List Lexeme
  deriving DecidableEq, Repr

/-- The blanks between lexemes. -/
def isSpace (c : Char) : Bool := c == ' ' || c == '\n' || c == '\t' || c == '\r'

/-- The characters of literals and numbers. -/
def isWordChar (c : Char) : Bool := c.isAlphanum || c == '-' || c == '+' || c == '.'

/-- The marks. -/
def isMark (c : Char) : Bool :=
  c == '\x7b' || c == '\x7d' || c == '[' || c == ']' || c == ':' || c == ','

/-- A character where nothing is open. -/
def start (lexemes : List Lexeme) (c : Char) : Option State :=
  if isSpace c then some ⟨.between, lexemes⟩
  else if isMark c then some ⟨.between, .mark c :: lexemes⟩
  else if c = '"' then some ⟨.string [], lexemes⟩
  else if isWordChar c then some ⟨.word [c], lexemes⟩
  else none

/-- One more character. A control character stands in no string. -/
def step (s : State) (c : Char) : Option State :=
  match s.mode with
  | .between => start s.lexemes c
  | .word done =>
    if isWordChar c then some { s with mode := .word (c :: done) }
    else (wordLexeme? done.reverse).bind fun lexeme => start (lexeme :: s.lexemes) c
  | .string done =>
    if c = '"' then some ⟨.between, .string (assemble done.reverse) :: s.lexemes⟩
    else if c = '\\' then some { s with mode := .escape done }
    else if c.toNat < 0x20 then none
    else some { s with mode := .string (.char c :: done) }
  | .escape done =>
    if c = 'u' then some { s with mode := .unit done 0 0 }
    else (shortEscape? c).map fun d => { s with mode := .string (.char d :: done) }
  | .unit done digits value =>
    (hexValue? c).map fun d =>
      let value := value * 16 + d
      if digits = 3 then { s with mode := .string (.unit value :: done) }
      else { s with mode := .unit done (digits + 1) value }

/-- The lexemes at the end of a text, where no string may be open. -/
def finish (s : State) : Option (List Lexeme) :=
  match s.mode with
  | .between => some s.lexemes.reverse
  | .word done => (wordLexeme? done.reverse).map fun lexeme => (lexeme :: s.lexemes).reverse
  | _ => none

end Lexer

/-- The lexemes of a text. -/
def Lexeme.scan (text : List Char) : Option (List Lexeme) :=
  text.foldlM Lexer.step ⟨.between, []⟩ >>= Lexer.finish

end QuestCheck.Json
