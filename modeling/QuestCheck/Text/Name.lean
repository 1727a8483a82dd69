import QuestCheck.Text.Blank

/-!
# Names and keys

Names of checks, conditions, packages and variables, and keys of named fields, are ASCII words.

* `isName`: letters, digits, `_`, `.` and `-`, at least one;
* `isKey`: a letter or `_`, then letters, digits, `_` and `-`;
* `isNameChar_iff`: the characters of names;
* `isNameChar_plain`, `isNameChar_of_mem_key`: names and keys hold no blank, no quote and no colon.
-/

namespace QuestCheck.Text

/-- A character of a name: an ASCII letter or digit, `_`, `.` or `-`. -/
def isNameChar (c : Char) : Bool := c.isAlphanum || c == '_' || c == '.' || c == '-'

/-- A character of a key after its first: an ASCII letter or digit, `_` or `-`. -/
def isKeyChar (c : Char) : Bool := c.isAlphanum || c == '_' || c == '-'

/-- A character that may start a key: an ASCII letter or `_`. -/
def isKeyStart (c : Char) : Bool := c.isAlpha || c == '_'

/-- A name is a non-empty word of name characters. -/
def isName (s : String) : Bool := !s.toList.isEmpty && s.toList.all isNameChar

/-- A key starts with a letter or `_` and goes on with key characters. -/
def isKey (s : String) : Bool :=
  match s.toList with
  | [] => false
  | c :: r => isKeyStart c && r.all isKeyChar

theorem isName_iff {s : String} :
    isName s = true ↔ s.toList ≠ [] ∧ ∀ c ∈ s.toList, isNameChar c = true := by
  simp [isName]

theorem isKeyChar_of_isKeyStart {c : Char} (h : isKeyStart c = true) : isKeyChar c = true := by
  simp only [isKeyStart, isKeyChar, Char.isAlphanum, Bool.or_eq_true] at *
  rcases h with h | h <;> simp [h]

theorem isNameChar_of_isKeyChar {c : Char} (h : isKeyChar c = true) : isNameChar c = true := by
  simp only [isKeyChar, isNameChar, Bool.or_eq_true] at *
  rcases h with (h | h) | h <;> simp [h]

/-- The characters of a key are characters of names. -/
theorem isNameChar_of_mem_key {key : String} (h : isKey key = true) {c : Char}
    (hc : c ∈ key.toList) : isNameChar c = true := by
  rw [isKey] at h
  cases e : key.toList with
  | nil => simp [e] at hc
  | cons d r =>
    rw [e] at h hc
    simp only [Bool.and_eq_true, List.all_eq_true] at h
    rcases List.mem_cons.mp hc with rfl | hc
    · exact isNameChar_of_isKeyChar (isKeyChar_of_isKeyStart h.1)
    · exact isNameChar_of_isKeyChar (h.2 c hc)

theorem isAlphanum_iff {c : Char} :
    c.isAlphanum = true ↔ ('A' ≤ c ∧ c ≤ 'Z') ∨ ('a' ≤ c ∧ c ≤ 'z') ∨ ('0' ≤ c ∧ c ≤ '9') := by
  have hupper : c.isUpper = true ↔ 'A' ≤ c ∧ c ≤ 'Z' := decide_eq_true_iff
  have hlower : c.isLower = true ↔ 'a' ≤ c ∧ c ≤ 'z' :=
    (Bool.and_eq_true_iff ..).trans (and_congr decide_eq_true_iff decide_eq_true_iff)
  have hdigit : c.isDigit = true ↔ '0' ≤ c ∧ c ≤ '9' :=
    (Bool.and_eq_true_iff ..).trans (and_congr decide_eq_true_iff decide_eq_true_iff)
  show ((c.isUpper || c.isLower) || c.isDigit) = true ↔ _
  rw [Bool.or_eq_true, Bool.or_eq_true, hupper, hlower, hdigit, or_assoc]

theorem toNat_of_isAlphanum {c : Char} (h : c.isAlphanum = true) :
    (48 ≤ c.toNat ∧ c.toNat ≤ 57) ∨ (65 ≤ c.toNat ∧ c.toNat ≤ 90) ∨
      97 ≤ c.toNat ∧ c.toNat ≤ 122 := by
  rcases isAlphanum_iff.mp h with h | h | h
  · exact .inr (.inl ⟨UInt32.le_iff_toNat_le.mp h.1, UInt32.le_iff_toNat_le.mp h.2⟩)
  · exact .inr (.inr ⟨UInt32.le_iff_toNat_le.mp h.1, UInt32.le_iff_toNat_le.mp h.2⟩)
  · exact .inl ⟨UInt32.le_iff_toNat_le.mp h.1, UInt32.le_iff_toNat_le.mp h.2⟩

theorem isNameChar_iff {c : Char} :
    isNameChar c = true ↔
      ('A' ≤ c ∧ c ≤ 'Z') ∨ ('a' ≤ c ∧ c ≤ 'z') ∨ ('0' ≤ c ∧ c ≤ '9') ∨
        c = '_' ∨ c = '.' ∨ c = '-' := by
  simp only [isNameChar, Bool.or_eq_true, isAlphanum_iff, beq_iff_eq, or_assoc]

/-- A character of a name is no blank, no quote and no colon. -/
theorem isNameChar_plain {c : Char} (h : isNameChar c = true) :
    isBlank c = false ∧ c ≠ '"' ∧ c ≠ ':' := by
  simp only [isNameChar, Bool.or_eq_true, beq_iff_eq] at h
  rcases h with ((h | rfl) | rfl) | rfl
  · have h := toNat_of_isAlphanum h
    refine ⟨isBlank_of_visible (by omega) (by omega), ?_, ?_⟩
    · rintro rfl
      exact absurd h (by decide)
    · rintro rfl
      exact absurd h (by decide)
  all_goals decide

end QuestCheck.Text
