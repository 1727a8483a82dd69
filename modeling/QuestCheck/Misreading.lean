/-!
# Misreadings

Why a text is no value of the kind that a field asks for: a truth value, a condition's name or a
message.

* `Misreading` and its `message`, and `Reading`;
* `head?_append`, `ne_of_head?`: sentences that start differently are different.
-/

namespace QuestCheck

/-- Why a text is no value of the kind asked for. -/
inductive Misreading where
  /-- The trimmed text is no truth value. -/
  | notTruth (text : String)
  /-- The part before the first `>` is no name. -/
  | badPackage (package : String)
  /-- The trimmed text has no name where one is due. -/
  | badName (text : String)
  /-- A percent sign in a message stands before a character that means nothing. -/
  | unknownMark (mark : Char) (text : String)
  /-- A message ends in a percent sign. -/
  | danglingMark (text : String)
  /-- A message has more holes than there are values to fill them. -/
  | tooManyHoles (text : String) (holes : Nat) (arity : Nat)
  deriving DecidableEq, Repr

/-- The sentence that says what is wrong with the text. -/
def Misreading.message : Misreading → String
  | notTruth text => s!"Expected \"true\" or \"false\", got \"{text}\"."
  | badPackage package => s!"Invalid condition package \"{package}\"."
  | badName text => s!"Invalid condition name \"{text}\"."
  | unknownMark mark text =>
    s!"Unsupported placeholder \"%{mark}\" in message \"{text}\". Use \"%s\" or \"%%\"."
  | danglingMark text =>
    s!"Message \"{text}\" ends with a dangling \"%\". Use \"%%\" for a literal percent."
  | tooManyHoles text holes arity =>
    s!"Message \"{text}\" has {holes} placeholders, but at most {arity} values are available."

/-- A reading of texts as values of a type. -/
abbrev Reading (α : Type) : Type := String → Except Misreading α

theorem exists_of_isOk {ε α : Type} {x : Except ε α} (h : x.isOk = true) : ∃ a, x = .ok a := by
  cases x with
  | error e => cases h
  | ok a => exact ⟨a, rfl⟩

/-! ## Sentences -/

theorem head?_append {text rest : String} {x : Char} (h : text.toList.head? = some x) :
    (text ++ rest).toList.head? = some x := by
  rw [String.toList_append, List.head?_append, h]
  rfl

theorem ne_of_head? {text other : String} {x : Char} (h : text.toList.head? = some x)
    (hother : other.toList.head? ≠ some x) : text ≠ other := by
  rintro rfl
  exact hother h

end QuestCheck
