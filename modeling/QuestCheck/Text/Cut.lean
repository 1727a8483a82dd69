/-!
# Cutting a text

* `cutAt`: a text before and after the first occurrence of a mark;
* `lines`: the pieces between line feeds, of which there is one more (`length_lines`);
* `cutAt_eq_some_iff`: the parts with the mark between them make up the text, and the first part
  does not hold the mark;
* `lines_append_feed`: a line feed between two texts separates their lines;
* `lines_ended`: lines with a line feed behind each are found again;
* `lines_ended_append`: any texts with a line feed behind each come before what follows them.
-/

namespace QuestCheck.Text

/-- The text before and after the first `mark`, or nothing where there is none. -/
def cutAt (mark : Char) (cs : List Char) : Option (List Char × List Char) :=
  match cs.dropWhile (· != mark) with
  | [] => none
  | _ :: rest => some (cs.takeWhile (· != mark), rest)

@[simp] theorem cutAt_nil (mark : Char) : cutAt mark [] = none := rfl

theorem cutAt_cons_self (mark : Char) (cs : List Char) :
    cutAt mark (mark :: cs) = some ([], cs) := by
  simp [cutAt]

theorem cutAt_cons_of_ne {mark c : Char} (h : c ≠ mark) (cs : List Char) :
    cutAt mark (c :: cs) = (cutAt mark cs).map fun p => (c :: p.1, p.2) := by
  have h' : (c != mark) = true := by simpa using h
  simp only [cutAt, List.dropWhile_cons, List.takeWhile_cons, h', if_true]
  split <;> rfl

theorem cutAt_eq_some_iff {mark : Char} {cs before after : List Char} :
    cutAt mark cs = some (before, after) ↔ cs = before ++ mark :: after ∧ mark ∉ before := by
  induction cs generalizing before with
  | nil => simp
  | cons c r ih =>
    by_cases hc : c = mark
    · subst hc
      rw [cutAt_cons_self]
      constructor
      · rintro ⟨⟩
        simp
      · rintro ⟨h, hn⟩
        cases before with
        | nil => simp_all
        | cons b bs => simp_all
    · rw [cutAt_cons_of_ne hc]
      cases before with
      | nil => simp [hc]
      | cons b bs =>
        simp only [Option.map_eq_some_iff, Prod.mk.injEq, List.cons.injEq, Prod.exists,
          List.cons_append, List.mem_cons, not_or]
        constructor
        · rintro ⟨x, y, h, ⟨rfl, rfl⟩, rfl⟩
          obtain ⟨h1, h2⟩ := ih.mp h
          exact ⟨⟨rfl, h1⟩, fun e => hc e.symm, h2⟩
        · rintro ⟨⟨rfl, h1⟩, _, h2⟩
          exact ⟨bs, after, ih.mpr ⟨h1, h2⟩, ⟨rfl, rfl⟩, rfl⟩

/-- A text without the mark is not cut. -/
theorem cutAt_eq_none_iff {mark : Char} {cs : List Char} : cutAt mark cs = none ↔ mark ∉ cs := by
  induction cs with
  | nil => simp
  | cons c r ih =>
    by_cases hc : c = mark
    · subst hc
      simp [cutAt_cons_self]
    · rw [cutAt_cons_of_ne hc, Option.map_eq_none_iff, ih, List.mem_cons, not_or]
      exact ⟨fun h => ⟨fun e => hc e.symm, h⟩, fun h => h.2⟩

/-- One more character in front of the first line. -/
def extendLine (c : Char) : List (List Char) → List (List Char)
  | [] => [[c]]
  | l :: ls => (c :: l) :: ls

/-- The pieces between line feeds: one more than there are line feeds. -/
def lines (cs : List Char) : List (List Char) :=
  cs.foldr (fun c ls => if c = '\n' then [] :: ls else extendLine c ls) [[]]

@[simp] theorem lines_nil : lines [] = [[]] := rfl

theorem lines_feed (cs : List Char) : lines ('\n' :: cs) = [] :: lines cs := rfl

theorem lines_cons_of_ne {c : Char} (h : c ≠ '\n') (cs : List Char) :
    lines (c :: cs) = extendLine c (lines cs) := by
  simp [lines, h]

theorem lines_ne_nil (cs : List Char) : lines cs ≠ [] := by
  cases cs with
  | nil => simp
  | cons c r =>
    by_cases h : c = '\n'
    · subst h
      simp [lines_feed]
    · rw [lines_cons_of_ne h]
      cases lines r <;> simp [extendLine]

/-- There is one line more than there are line feeds. -/
theorem length_lines (cs : List Char) : (lines cs).length = cs.count '\n' + 1 := by
  induction cs with
  | nil => rfl
  | cons c r ih =>
    by_cases h : c = '\n'
    · subst h
      rw [lines_feed, List.length_cons, ih, List.count_cons_self]
    · rw [lines_cons_of_ne h, List.count_cons_of_ne h, ← ih]
      cases hl : lines r with
      | nil => exact absurd hl (lines_ne_nil r)
      | cons l ls => rfl

theorem lines_of_no_feed {cs : List Char} (h : '\n' ∉ cs) : lines cs = [cs] := by
  induction cs with
  | nil => rfl
  | cons c r ih =>
    simp only [List.mem_cons, not_or] at h
    rw [lines_cons_of_ne (fun e => h.1 e.symm), ih h.2]
    rfl

/-- **A line feed between two texts separates their lines.** -/
theorem lines_append_feed (xs ys : List Char) :
    lines (xs ++ '\n' :: ys) = lines xs ++ lines ys := by
  induction xs with
  | nil => rfl
  | cons c r ih =>
    by_cases h : c = '\n'
    · subst h
      simp only [List.cons_append, lines_feed, ih]
    · simp only [List.cons_append, lines_cons_of_ne h, ih]
      have := lines_ne_nil r
      cases hl : lines r with
      | nil => exact absurd hl this
      | cons l ls => rfl

/-- Lines that are ended by a line feed each are found again, and nothing behind them. -/
theorem lines_ended {ls : List (List Char)} (h : ∀ l ∈ ls, '\n' ∉ l) :
    lines (ls.flatMap (· ++ ['\n'])) = ls ++ [[]] := by
  induction ls with
  | nil => rfl
  | cons l ls ih =>
    obtain ⟨hl, hls⟩ := List.forall_mem_cons.mp h
    rw [List.flatMap_cons, List.append_assoc, List.singleton_append, lines_append_feed,
      lines_of_no_feed hl, ih hls, List.singleton_append, List.cons_append]

end QuestCheck.Text
