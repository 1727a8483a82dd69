import QuestCheck.Misreading
import QuestCheck.Text.Blank

/-!
# Truth values

* `Truth.parse` reads `true` and `false`, with blanks around them; `Truth.text` writes them;
* `Truth.parse_text`: what is written is read back.
-/

namespace QuestCheck.Truth

/-- The word of a truth value. -/
def text : Bool → String
  | true => "true"
  | false => "false"

/-- The truth value whose word is the trimmed text. -/
def parse : Reading Bool := fun raw =>
  let word := Text.trimmed raw
  if word = text true then .ok true
  else if word = text false then .ok false
  else .error (.notTruth word)

theorem parse_text (b : Bool) : parse (text b) = .ok b := by
  cases b <;> rfl

end QuestCheck.Truth
