import QuestCheck.Proofs.Course
import QuestCheck.World

/-!
# Runs in surroundings

The sources of surroundings answer without regard to the log, so that what a procedure comes to in
them is told without one.

* `Surroundings.result`, `exchanges` and `lines`: what a run from any log comes to;
* `result_run`, `exchanges_run`, `lines_run`: the log changes nothing;
* `result_bind_of_ok`, `exchanges_bind_of_ok`, `result_bind_eq_ok_iff`,
  `result_bind_eq_error_iff`: a sequence;
* **`result_mapM_of_ok`**, **`exchanges_mapM_of_ok`**, `result_mapM_eq_ok_iff`,
  `result_forM_eq_ok_iff`, `exchanges_forM_of_ok`: a loop in which no turn fails;
* `exists_error_of_forM`: a loop fails by one of its turns.
-/

namespace QuestCheck.Surroundings

open Procedure

variable {α β : Type} (s : Surroundings)

/-- What the run of a procedure ends in. -/
def result (p : Procedure α) : Except Fault α := (s.run p .empty).result

/-- The exchanges of the run of a procedure. -/
def exchanges (p : Procedure α) : List Exchange := (s.run p .empty).exchanges

/-- The lines that the run of a procedure reports. -/
def lines (p : Procedure α) : List Line := reportedLines (s.exchanges p)

theorem respects_handler : Respects s.handler fun _ _ => True := by
  intro r log log' _
  cases r <;> exact ⟨rfl, trivial⟩

theorem run_of_logs (p : Procedure α) (log log' : Log) :
    (s.run p log).result = (s.run p log').result ∧
      (s.run p log).exchanges = (s.run p log').exchanges := by
  obtain ⟨hresult, hexchanges, -⟩ := s.respects_handler.run p (s := log) (t := log') trivial
  exact ⟨hresult, hexchanges⟩

theorem result_run (p : Procedure α) (log : Log) : (s.run p log).result = s.result p :=
  (s.run_of_logs p log .empty).1

theorem exchanges_run (p : Procedure α) (log : Log) : (s.run p log).exchanges = s.exchanges p :=
  (s.run_of_logs p log .empty).2

theorem lines_run (p : Procedure α) (log : Log) : (s.run p log).lines = s.lines p := by
  rw [lines_eq_reportedLines, exchanges_run]
  rfl

theorem course_exchanges (p : Procedure α) : p.Course (s.exchanges p) (s.result p) :=
  course_run s.handler p .empty

theorem yields_of_result {p : Procedure α} {a : α} (h : s.result p = .ok a) : p.Yields a :=
  yields_of_run h

/-! ## Parts of a procedure -/

theorem result_ask (r : Request) (next : r.Answer → Procedure α) :
    s.result (ask r next) = s.result (next (s.handler r .empty).1) := by
  rw [← s.result_run (next _) (s.handler r .empty).2]
  rfl

@[simp] theorem result_done (a : α) : s.result (done a) = .ok a := rfl

@[simp] theorem result_fail (fault : Fault) : s.result (fail fault : Procedure α) = .error fault :=
  rfl

@[simp] theorem result_evaluate (actor : Option Actor) (condition : QualifiedName) :
    s.result (evaluate actor condition) = s.conditions.evaluate actor condition := by
  unfold evaluate
  rw [result_ask]
  show s.result (Procedure.ofExcept (s.conditions.evaluate actor condition)) = _
  cases s.conditions.evaluate actor condition <;> rfl

@[simp] theorem result_resolve (actor : Option Actor) (name : String) :
    s.result (resolve actor name) = s.vars.resolve actor name := by
  unfold resolve
  rw [result_ask]
  show s.result (Procedure.ofExcept (s.vars.resolve actor name)) = _
  cases s.vars.resolve actor name <;> rfl

theorem exchanges_ask (r : Request) (next : r.Answer → Procedure α) :
    s.exchanges (ask r next) =
      ⟨r, (s.handler r .empty).1⟩ :: s.exchanges (next (s.handler r .empty).1) := by
  rw [← s.exchanges_run (next _) (s.handler r .empty).2]
  rfl

theorem exchanges_ofExcept (x : Except Fault α) : s.exchanges (ofExcept x) = [] := by
  cases x <;> rfl

@[simp] theorem exchanges_resolve (actor : Option Actor) (name : String) :
    s.exchanges (resolve actor name) = [⟨.resolve actor name, s.vars.resolve actor name⟩] := by
  unfold resolve
  rw [exchanges_ask, exchanges_ofExcept]
  rfl

@[simp] theorem exchanges_evaluate (actor : Option Actor) (condition : QualifiedName) :
    s.exchanges (evaluate actor condition) =
      [⟨.evaluate actor condition, s.conditions.evaluate actor condition⟩] := by
  unfold evaluate
  rw [exchanges_ask, exchanges_ofExcept]
  rfl

@[simp] theorem exchanges_done (a : α) : s.exchanges (done a) = [] := rfl

@[simp] theorem lines_done (a : α) : s.lines (done a) = [] := rfl

@[simp] theorem result_note (event : Event) : s.result (note event) = .ok () := rfl

@[simp] theorem exchanges_note (event : Event) :
    s.exchanges (note event) = [⟨.note event, ()⟩] := rfl

@[simp] theorem lines_note (event : Event) : s.lines (note event) = [] := rfl

@[simp] theorem result_attempt (p : Procedure α) : s.result p.attempt = .ok (s.result p) := by
  unfold result run
  rw [run_attempt]

@[simp] theorem exchanges_attempt (p : Procedure α) : s.exchanges p.attempt = s.exchanges p := by
  unfold exchanges run
  rw [run_attempt]

@[simp] theorem lines_attempt (p : Procedure α) : s.lines p.attempt = s.lines p := by
  unfold lines
  rw [exchanges_attempt]

variable {s}

theorem result_bind_of_ok {p : Procedure α} {a : α} (h : s.result p = .ok a)
    (f : α → Procedure β) : s.result (p >>= f) = s.result (f a) := by
  have hrun : (p.run s.handler .empty).result = .ok a := h
  rw [← s.result_run (f a) (p.run s.handler .empty).state]
  unfold result run
  rw [run_bind]
  simp only [hrun]
  rfl

theorem result_bind_of_error {p : Procedure α} {fault : Fault} (h : s.result p = .error fault)
    (f : α → Procedure β) : s.result (p >>= f) = .error fault := by
  have hrun : (p.run s.handler .empty).result = .error fault := h
  unfold result run
  rw [run_bind]
  simp only [hrun]

theorem result_bind_eq_ok_iff {p : Procedure α} {f : α → Procedure β} {b : β} :
    s.result (p >>= f) = .ok b ↔ ∃ a, s.result p = .ok a ∧ s.result (f a) = .ok b := by
  cases hp : s.result p with
  | ok a => simp [result_bind_of_ok hp]
  | error fault => simp [result_bind_of_error hp]

theorem result_bind_eq_error_iff {p : Procedure α} {f : α → Procedure β} {fault : Fault} :
    s.result (p >>= f) = .error fault ↔
      s.result p = .error fault ∨ ∃ a, s.result p = .ok a ∧ s.result (f a) = .error fault := by
  cases hp : s.result p with
  | ok a => simp [result_bind_of_ok hp]
  | error fault' => simp [result_bind_of_error hp]

theorem exchanges_bind_of_ok {p : Procedure α} {a : α} (h : s.result p = .ok a)
    (f : α → Procedure β) : s.exchanges (p >>= f) = s.exchanges p ++ s.exchanges (f a) := by
  have hrun : (p.run s.handler .empty).result = .ok a := h
  rw [← s.exchanges_run (f a) (p.run s.handler .empty).state]
  unfold exchanges run
  rw [run_bind]
  simp only [hrun]
  rfl

theorem exchanges_bind_of_error {p : Procedure α} {fault : Fault} (h : s.result p = .error fault)
    (f : α → Procedure β) : s.exchanges (p >>= f) = s.exchanges p := by
  have hrun : (p.run s.handler .empty).result = .error fault := h
  unfold exchanges run
  rw [run_bind]
  simp only [hrun]

theorem lines_bind_of_ok {p : Procedure α} {a : α} (h : s.result p = .ok a)
    (f : α → Procedure β) : s.lines (p >>= f) = s.lines p ++ s.lines (f a) := by
  unfold lines
  rw [exchanges_bind_of_ok h, reportedLines_append]

/-! ## Loops -/

/-- **A loop in which no turn fails** gives the list of what the turns give. -/
theorem result_mapM_of_ok {f : α → Procedure β} {g : α → β} {xs : List α}
    (h : ∀ x ∈ xs, s.result (f x) = .ok (g x)) : s.result (xs.mapM f) = .ok (xs.map g) := by
  induction xs with
  | nil => rfl
  | cons x xs ih =>
    obtain ⟨hx, hxs⟩ := List.forall_mem_cons.mp h
    rw [List.mapM_cons, result_bind_of_ok hx, result_bind_of_ok (ih hxs)]
    rfl

theorem result_mapM_eq_ok_iff {f : α → Procedure β} {xs : List α} {ys : List β} :
    s.result (xs.mapM f) = .ok ys ↔ List.Forall₂ (fun x y => s.result (f x) = .ok y) xs ys := by
  induction xs generalizing ys with
  | nil =>
    rw [List.mapM_nil, pure_eq, result_done, List.forall₂_nil_left_iff, Except.ok.injEq, eq_comm]
  | cons x xs ih =>
    rw [List.mapM_cons, result_bind_eq_ok_iff, List.forall₂_cons_left_iff]
    simp only [result_bind_eq_ok_iff, ih, pure_eq, result_done, Except.ok.injEq]
    constructor
    · rintro ⟨y, hy, ys, hys, rfl⟩
      exact ⟨y, ys, hy, hys, rfl⟩
    · rintro ⟨y, ys, hy, hys, rfl⟩
      exact ⟨y, hy, ys, hys, rfl⟩

theorem forM_cons (f : α → Procedure Unit) (x : α) (xs : List α) :
    (x :: xs).forM f = (do f x; xs.forM f) := by
  rw [List.forM_eq_forM, List.forM_cons]

theorem result_forM_eq_ok_iff {f : α → Procedure Unit} {xs : List α} :
    s.result (xs.forM f) = .ok () ↔ ∀ x ∈ xs, s.result (f x) = .ok () := by
  induction xs with
  | nil => simp
  | cons x xs ih =>
    rw [forM_cons, result_bind_eq_ok_iff, List.forall_mem_cons, ← ih]
    exact ⟨fun ⟨⟨⟩, hx, hxs⟩ => ⟨hx, hxs⟩, fun ⟨hx, hxs⟩ => ⟨(), hx, hxs⟩⟩

theorem exchanges_forM_of_ok {f : α → Procedure Unit} {xs : List α}
    (h : ∀ x ∈ xs, s.result (f x) = .ok ()) :
    s.exchanges (xs.forM f) = xs.flatMap fun x => s.exchanges (f x) := by
  induction xs with
  | nil => rfl
  | cons x xs ih =>
    obtain ⟨hx, hxs⟩ := List.forall_mem_cons.mp h
    rw [forM_cons, exchanges_bind_of_ok hx, ih hxs, List.flatMap_cons]

theorem exists_error_of_forM {f : α → Procedure Unit} {xs : List α} {fault : Fault}
    (h : s.result (xs.forM f) = .error fault) : ∃ x ∈ xs, s.result (f x) = .error fault := by
  induction xs with
  | nil => cases h
  | cons x xs ih =>
    rw [forM_cons] at h
    rcases result_bind_eq_error_iff.mp h with hx | ⟨⟨⟩, -, hxs⟩
    · exact ⟨x, List.mem_cons_self, hx⟩
    · obtain ⟨y, hy, hfault⟩ := ih hxs
      exact ⟨y, List.mem_cons_of_mem x hy, hfault⟩

/-- **A loop in which no turn fails** exchanges what the turns exchange, one after another. -/
theorem exchanges_mapM_of_ok {f : α → Procedure β} {g : α → β} {xs : List α}
    (h : ∀ x ∈ xs, s.result (f x) = .ok (g x)) :
    s.exchanges (xs.mapM f) = xs.flatMap fun x => s.exchanges (f x) := by
  induction xs with
  | nil => rfl
  | cons x xs ih =>
    obtain ⟨hx, hxs⟩ := List.forall_mem_cons.mp h
    rw [List.mapM_cons, exchanges_bind_of_ok hx, exchanges_bind_of_ok (result_mapM_of_ok hxs),
      ih hxs, List.flatMap_cons, pure_eq, exchanges_done, List.append_nil]

theorem lines_mapM_of_ok {f : α → Procedure β} {g : α → β} {xs : List α}
    (h : ∀ x ∈ xs, s.result (f x) = .ok (g x)) :
    s.lines (xs.mapM f) = xs.flatMap fun x => s.lines (f x) := by
  unfold lines reportedLines
  rw [exchanges_mapM_of_ok h, List.filterMap_flatMap]

end QuestCheck.Surroundings
