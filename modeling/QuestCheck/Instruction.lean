import QuestCheck.Dict
import QuestCheck.Token

/-!
# Instructions

An instruction is written as a kind followed by tokens: a token `key:value` whose colon is not
quoted is a named field, any other is positional.

* `Instruction` and `Instruction.parse`;
* the fields: `positional?`, `named?` and `flag`, which may stand bare or with a value.
-/

namespace QuestCheck

/-- An instruction: its name, its trimmed text, its kind and its fields. -/
structure Instruction where
  id : QualifiedName
  source : String
  kind : String
  positional : List String
  named : Dict String
  deriving DecidableEq

/-- How a flag is written. -/
inductive FlagForm where
  | absent
  | bare
  | valued (text : String)
  deriving DecidableEq, Repr

namespace Instruction

/-- One more token among the named fields, if it is one. -/
def addNamed (named : Dict String) (t : Token) : Except Defect (Dict String) :=
  match t.field? with
  | none => .ok named
  | some (key, value) =>
    if value = "" then .error (.emptyField key)
    else if key ∈ named then .error (.repeatedField key)
    else .ok (named.insert key value)

/-- The text of a token that is no named field. -/
def positionalText (t : Token) : Option String :=
  match t.field? with
  | none => some (String.ofList t.text)
  | some _ => none

/-- The instruction of a list of tokens, the first being its kind. -/
def ofTokens (id : QualifiedName) (source : String) : List Token → Except Defect Instruction
  | [] => .error .noKind
  | kind :: fields =>
    if kind.openedAt.isSome || kind.text.isEmpty then .error (.badKind (String.ofList kind.text))
    else (fields.foldlM addNamed ∅).map fun named =>
      { id, source, kind := String.ofList kind.text
        positional := fields.filterMap positionalText, named }

theorem ofTokens_of_word {kind : Token} (hopen : kind.openedAt = none) (hne : kind.text ≠ [])
    (id : QualifiedName) (source : String) (fields : List Token) :
    ofTokens id source (kind :: fields) = (fields.foldlM addNamed ∅).map fun named =>
      ⟨id, source, String.ofList kind.text, fields.filterMap positionalText, named⟩ := by
  have hword : ¬ (kind.openedAt.isSome || kind.text.isEmpty) = true := by simp [hopen, hne]
  rw [ofTokens, if_neg hword]

/-- The instruction written as a text. -/
def parse (id : QualifiedName) (text : String) : Except Rejection Instruction :=
  (Token.scan text.toList >>= ofTokens id (Text.trimmed text)).mapError fun defect =>
    ⟨id.display, defect⟩

/-- The positional field of an index. -/
def positional? (i : Instruction) (index : Nat) : Option String := i.positional[index]?

/-- The named field of a key. -/
def named? (i : Instruction) (key : String) : Option String := i.named[key]?

/-- The form of a flag: its named field counts before the bare word, and the first positional field
is never a flag. -/
def flag (i : Instruction) (key : String) : FlagForm :=
  match i.named? key with
  | some text => .valued text
  | none => if key ∈ i.positional.drop 1 then .bare else .absent

end Instruction

end QuestCheck
