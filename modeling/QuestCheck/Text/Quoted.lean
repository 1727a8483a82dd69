import QuestCheck.Text.Shapeless

/-!
# Quoted texts

A text is shown in double quotes on one line: what has no shape of its own is written by its code
point.

* `quoted`;
* `quotedChar_of_plain`: any other character stands for itself.
-/

namespace QuestCheck.Text

/-- The hexadecimal digits of a code point, in lower case and without leading zeros. -/
def hexDigits (c : Char) : List Char := Nat.toDigits 16 c.toNat

/-- A character within quotes. -/
def quotedChar (c : Char) : List Char :=
  if c = '"' then ['\\', '"']
  else if c = '\\' then ['\\', '\\']
  else if c = '\t' then ['\\', 't']
  else if c = '\r' then ['\\', 'r']
  else if c = '\n' then ['\\', 'n']
  else if c = '\x00' then ['\\', '0']
  else if isShapeless c then ['\\', 'u', '\x7b'] ++ hexDigits c ++ ['\x7d']
  else [c]

/-- A text in quotes. -/
def quoted (s : String) : String := String.ofList ('"' :: s.toList.flatMap quotedChar ++ ['"'])

theorem quotedChar_of_plain {c : Char} (hq : c ≠ '"') (hb : c ≠ '\\') (hs : isShapeless c = false) :
    quotedChar c = [c] := by
  have ht : c ≠ '\t' := by rintro rfl; exact absurd hs (by decide)
  have hr : c ≠ '\r' := by rintro rfl; exact absurd hs (by decide)
  have hn : c ≠ '\n' := by rintro rfl; exact absurd hs (by decide)
  have hz : c ≠ '\x00' := by rintro rfl; exact absurd hs (by decide)
  simp [quotedChar, hq, hb, ht, hr, hn, hz, hs]

end QuestCheck.Text
