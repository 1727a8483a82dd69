/-!
# Blank characters

Scripts are cut at the blanks of the Unicode property White_Space, which is wider than the ASCII
blanks and is not the general category of separators.

* `isBlank`, `trim` on character lists and `trimmed` on texts;
* `isBlank_of_isWhitespace`: every ASCII blank is a blank;
* `mem_trim_iff`: what is not blank is not cut off;
* `trimStart_eq_self`, `trimEnd_eq_self`, `trim_eq_self`: an end without a blank is left alone;
* `trim_append_left`, `trim_append_right`, `trim_append_blanks`, `trim_blanks`: blanks at an end are
  cut off.
-/

namespace QuestCheck.Text

/-- The code points of the property White_Space, as closed ranges in ascending order. -/
def blankRanges : List (Nat × Nat) :=
  [(0x09, 0x0D), (0x20, 0x20), (0x85, 0x85), (0xA0, 0xA0), (0x1680, 0x1680), (0x2000, 0x200A),
    (0x2028, 0x2029), (0x202F, 0x202F), (0x205F, 0x205F), (0x3000, 0x3000)]

/-- A character is blank when its code point lies in one of the ranges. -/
def isBlank (c : Char) : Bool :=
  blankRanges.any fun r => r.1 ≤ c.toNat && c.toNat ≤ r.2

/-- There are twenty-five blanks. -/
theorem count_blankRanges : blankRanges.foldl (fun n r => n + (r.2 - r.1 + 1)) 0 = 25 := rfl

theorem isBlank_of_isWhitespace {c : Char} (h : c.isWhitespace = true) : isBlank c = true := by
  simp only [Char.isWhitespace, Bool.or_eq_true, decide_eq_true_eq] at h
  rcases h with ((rfl | rfl) | rfl) | rfl <;> decide

/-- No visible ASCII character is blank. -/
theorem isBlank_of_visible {c : Char} (h : 33 ≤ c.toNat) (h' : c.toNat < 127) :
    isBlank c = false := by
  simp only [isBlank, blankRanges, List.any_cons, List.any_nil, Bool.or_false, Bool.or_eq_false_iff,
    Bool.and_eq_false_iff, decide_eq_false_iff_not, Nat.not_le]
  omega

/-- Blanks cut off the front. -/
def trimStart (cs : List Char) : List Char := cs.dropWhile isBlank

/-- Blanks cut off the back. -/
def trimEnd (cs : List Char) : List Char := (cs.reverse.dropWhile isBlank).reverse

/-- Blanks cut off both ends. -/
def trim (cs : List Char) : List Char := trimEnd (trimStart cs)

/-- A text with the blanks cut off both ends. -/
def trimmed (s : String) : String := String.ofList (trim s.toList)

@[simp] theorem toList_trimmed (s : String) : (trimmed s).toList = trim s.toList := by
  simp [trimmed]

@[simp] theorem trim_nil : trim [] = [] := rfl

/-- What is not blank is not cut off. -/
theorem mem_trim_iff {c : Char} (h : isBlank c = false) {cs : List Char} :
    c ∈ trim cs ↔ c ∈ cs := by
  have hdrop : ∀ l : List Char, c ∈ l.dropWhile isBlank ↔ c ∈ l := by
    intro l
    refine ⟨fun hc => List.dropWhile_subset _ hc, fun hc => ?_⟩
    rw [← List.takeWhile_append_dropWhile (p := isBlank) (l := l)] at hc
    rcases List.mem_append.mp hc with hc | hc
    · rw [List.all_eq_true.mp List.all_takeWhile c hc] at h
      cases h
    · exact hc
  rw [trim, trimEnd, List.mem_reverse, hdrop, List.mem_reverse, trimStart, hdrop]

theorem trimStart_eq_self {cs : List Char} (h : ∀ c, cs.head? = some c → isBlank c = false) :
    trimStart cs = cs := by
  cases cs with
  | nil => rfl
  | cons c r => simp [trimStart, h c rfl]

theorem trimEnd_eq_self {cs : List Char} (h : ∀ c, cs.getLast? = some c → isBlank c = false) :
    trimEnd cs = cs := by
  have h' : trimStart cs.reverse = cs.reverse :=
    trimStart_eq_self fun c hc => h c (by simpa using hc)
  simp only [trimEnd]
  simp only [trimStart] at h'
  rw [h', List.reverse_reverse]

theorem trim_eq_self {cs : List Char} (hhead : ∀ c, cs.head? = some c → isBlank c = false)
    (hlast : ∀ c, cs.getLast? = some c → isBlank c = false) : trim cs = cs := by
  rw [trim, trimStart_eq_self hhead, trimEnd_eq_self hlast]

/-- A front without a blank stays the front. -/
theorem head?_trim {c : Char} (h : isBlank c = false) (cs : List Char) :
    (trim (c :: cs)).head? = some c := by
  have hstart : trimStart (c :: cs) = c :: cs := by
    simp [trimStart, h]
  rw [trim, hstart, trimEnd, List.reverse_cons, List.dropWhile_append]
  by_cases hempty : (cs.reverse.dropWhile isBlank).isEmpty = true
  · simp [hempty, h]
  · rw [if_neg hempty, List.reverse_append]
    rfl

theorem trim_append_left {bs : List Char} (h : ∀ c ∈ bs, isBlank c = true) (cs : List Char) :
    trim (bs ++ cs) = trim cs := by
  unfold trim trimStart
  rw [List.dropWhile_append_of_pos h]

theorem trimEnd_append {bs : List Char} (h : ∀ c ∈ bs, isBlank c = true) (cs : List Char) :
    trimEnd (cs ++ bs) = trimEnd cs := by
  have h' : ∀ c ∈ bs.reverse, isBlank c = true := fun c hc => h c (List.mem_reverse.mp hc)
  unfold trimEnd
  rw [List.reverse_append, List.dropWhile_append_of_pos h']

theorem trim_blanks {bs : List Char} (h : ∀ c ∈ bs, isBlank c = true) : trim bs = [] := by
  have htrim := trim_append_left h []
  rwa [List.append_nil] at htrim

/-- Blanks behind a text that starts with none are cut off. -/
theorem trim_append_right {bs cs : List Char} (h : ∀ c ∈ bs, isBlank c = true)
    (hne : cs ≠ []) (hhead : ∀ c, cs.head? = some c → isBlank c = false) :
    trim (cs ++ bs) = trimEnd cs := by
  have hhead' : ∀ c, (cs ++ bs).head? = some c → isBlank c = false := by
    cases cs with
    | nil => exact absurd rfl hne
    | cons d ds => exact hhead
  rw [trim, trimStart_eq_self hhead', trimEnd_append h]

/-- Blanks behind a text are cut off. -/
theorem trim_append_blanks {bs : List Char} (h : ∀ c ∈ bs, isBlank c = true) (cs : List Char) :
    trim (cs ++ bs) = trim cs := by
  unfold trim trimStart
  rw [List.dropWhile_append]
  split
  · next hempty =>
    have hblank : bs.dropWhile isBlank = [] := by
      rw [← List.append_nil bs, List.dropWhile_append_of_pos h]
      rfl
    rw [hblank, List.isEmpty_iff.mp hempty]
  · exact trimEnd_append h _

end QuestCheck.Text
