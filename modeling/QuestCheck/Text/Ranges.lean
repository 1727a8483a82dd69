/-!
# Ranges of code points

A property of characters is given by the closed ranges of the code points that have it, in
ascending order and with gaps between them.

* `within`; `isAscending`;
* **`within_iff`**: a number is found exactly where a range holds it.
-/

namespace QuestCheck.Text

/-- The number lies in one of the ranges; none after the first that starts above it is looked at. -/
def within (n : Nat) : List (Nat × Nat) → Bool
  | [] => false
  | r :: rest => if n < r.1 then false else n ≤ r.2 || within n rest

/-- No range is empty, and each starts above the one before it. -/
def isAscending : List (Nat × Nat) → Bool
  | [] => true
  | [r] => r.1 ≤ r.2
  | r :: s :: rest => r.1 ≤ r.2 && r.2 < s.1 && isAscending (s :: rest)

theorem isAscending_of_cons {r : Nat × Nat} {rest : List (Nat × Nat)}
    (h : isAscending (r :: rest) = true) : isAscending rest = true := by
  cases rest with
  | nil => rfl
  | cons s t =>
    simp only [isAscending, Bool.and_eq_true] at h
    exact h.2

/-- The ranges behind one start above it. -/
theorem lt_of_isAscending {r : Nat × Nat} {rest : List (Nat × Nat)}
    (h : isAscending (r :: rest) = true) {s : Nat × Nat} (hs : s ∈ rest) : r.1 < s.1 := by
  induction rest generalizing r with
  | nil => simp at hs
  | cons t rest ih =>
    have ht : r.1 < t.1 := by
      simp only [isAscending, Bool.and_eq_true, decide_eq_true_eq] at h
      omega
    rcases List.mem_cons.mp hs with rfl | hs
    · exact ht
    · exact Nat.lt_trans ht (ih (isAscending_of_cons h) hs)

/-- **A number is found exactly where a range holds it.** -/
theorem within_iff {n : Nat} {ranges : List (Nat × Nat)} (h : isAscending ranges = true) :
    within n ranges = true ↔ ∃ r ∈ ranges, r.1 ≤ n ∧ n ≤ r.2 := by
  induction ranges with
  | nil => simp [within]
  | cons r rest ih =>
    have ih := ih (isAscending_of_cons h)
    rw [within]
    by_cases hn : n < r.1
    · rw [if_pos hn]
      constructor
      · intro hf
        cases hf
      · rintro ⟨s, hs, hlo, _⟩
        rcases List.mem_cons.mp hs with rfl | hs
        · omega
        · have := lt_of_isAscending h hs
          omega
    · rw [if_neg hn, Bool.or_eq_true, decide_eq_true_eq, ih]
      constructor
      · rintro (hr | ⟨s, hs, hb⟩)
        · exact ⟨r, List.mem_cons_self, by omega, hr⟩
        · exact ⟨s, List.mem_cons_of_mem r hs, hb⟩
      · rintro ⟨s, hs, hb⟩
        rcases List.mem_cons.mp hs with rfl | hs
        · exact .inl hb.2
        · exact .inr ⟨s, hs, hb⟩

end QuestCheck.Text
