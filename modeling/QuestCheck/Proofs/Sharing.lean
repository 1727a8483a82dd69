import Mathlib.Data.List.DropRight
import Mathlib.Data.List.Induction
import QuestCheck.Log

/-!
# A log that is shared

A log may have many users at a time: some report lines, others look at them or take them away. Each
operation is atomic, so that the users have their turns one after another, in any order, and what a
user asks for may hang on any answer before. Whatever the turns are, a line that was pushed comes
out exactly once, and the lines stay in the order of their arrival.

* `Operation`, `perform`: what is asked of a log, what it answers, and the log afterwards;
* `Turn`, `Use`, `serve`: turns that are asked for, and the uses that they come to;
* `pushed`, `sinceTake`, `ofUser`: what a history says of lines and of users;
* `taken_perform`, `output_serve`: one operation, and then a history, loses and repeats no line;
* `records_serve`: a log holds what was pushed since lines were last taken;
* `serve_filter_records`: to look at the lines changes nothing;
* **`serve_loses_and_repeats_nothing`**: the four together.
-/

namespace QuestCheck.Log

/-! ## Operations -/

/-- What is asked of a log. -/
inductive Operation where
  /-- To take down a success. -/
  | info (text : String)
  /-- To take down anything else. -/
  | error (text : String)
  /-- To give all lines away. -/
  | take
  /-- To show all lines. -/
  | records
  deriving DecidableEq

/-- The answers to an operation. -/
@[reducible] def Operation.Answer : Operation → Type
  | info _ | error _ => Unit
  | take | records => List Line

/-- The line that an operation adds, if it adds one. -/
def Operation.line? : Operation → Option Line
  | info text => some ⟨.info, text⟩
  | error text => some ⟨.error, text⟩
  | take | records => none

/-- The answer to an operation, and the log after it. -/
def perform (log : Log) : (op : Operation) → op.Answer × Log
  | .info text => ((), log.push ⟨.info, text⟩)
  | .error text => ((), log.push ⟨.error, text⟩)
  | .take => log.take
  | .records => (log.records, log)

/-! ## Turns and uses -/

section Turns

variable {P : Type}

/-- A user and the operation that the user asks for. -/
abbrev Turn (P : Type) : Type := P × Operation

/-- An operation that was performed, for whom, and with which answer. -/
structure Use (P : Type) where
  user : P
  operation : Operation
  answer : operation.Answer

/-- The lines that were taken away by a use. -/
def Use.taken : Use P → List Line
  | ⟨_, .take, lines⟩ => lines
  | _ => []

/-- The uses that were made of a log, in order, and the log after them. -/
structure Service (P : Type) where
  uses : List (Use P)
  log : Log

/-- All that comes out of a log: the lines that were taken, and then those that are left. -/
def Service.output (s : Service P) : List Line := s.uses.flatMap Use.taken ++ s.log.records

/-- The uses that turns come to, one after another. -/
def serve (log : Log) : List (Turn P) → Service P
  | [] => ⟨[], log⟩
  | (user, op) :: turns =>
    let rest := serve (log.perform op).2 turns
    ⟨⟨user, op, (log.perform op).1⟩ :: rest.uses, rest.log⟩

/-- The lines that are pushed in a history, in order. -/
def pushed (turns : List (Turn P)) : List Line := turns.filterMap (·.2.line?)

/-- The turns since lines were last taken, or all turns if none ever were. -/
def sinceTake (turns : List (Turn P)) : List (Turn P) := turns.rtakeWhile (·.2 ≠ .take)

/-- The turns of one user. -/
def ofUser [DecidableEq P] (user : P) (turns : List (Turn P)) : List (Turn P) :=
  turns.filter (·.1 = user)

theorem serve_cons (log : Log) (turn : Turn P) (turns : List (Turn P)) :
    log.serve (turn :: turns) =
      ⟨⟨turn.1, turn.2, (log.perform turn.2).1⟩ :: ((log.perform turn.2).2.serve turns).uses,
        ((log.perform turn.2).2.serve turns).log⟩ := rfl

/-- **A history and what comes behind it.** -/
theorem serve_append (log : Log) (turns turns' : List (Turn P)) :
    log.serve (turns ++ turns') =
      ⟨(log.serve turns).uses ++ ((log.serve turns).log.serve turns').uses,
        ((log.serve turns).log.serve turns').log⟩ := by
  induction turns generalizing log with
  | nil => rfl
  | cons turn turns ih => rw [List.cons_append, serve_cons, serve_cons, ih, List.cons_append]

@[simp] theorem length_uses_serve (log : Log) (turns : List (Turn P)) :
    (log.serve turns).uses.length = turns.length := by
  induction turns generalizing log with
  | nil => rfl
  | cons turn turns ih => rw [serve_cons, List.length_cons, List.length_cons, ih]

theorem getElem?_uses_serve (log : Log) (before after : List (Turn P)) (turn : Turn P) :
    (log.serve (before ++ turn :: after)).uses[before.length]? =
      some ⟨turn.1, turn.2, ((log.serve before).log.perform turn.2).1⟩ := by
  rw [serve_append, serve_cons]
  simp

/-! ## No line is lost or repeated -/

/-- **One operation loses and repeats no line.** -/
theorem taken_perform (log : Log) (user : P) (op : Operation) :
    (⟨user, op, (log.perform op).1⟩ : Use P).taken ++ (log.perform op).2.records =
      log.records ++ op.line?.toList := by
  cases op with
  | info text => exact records_push log ⟨.info, text⟩
  | error text => exact records_push log ⟨.error, text⟩
  | take => rfl
  | records => exact (List.append_nil _).symm

theorem pushed_cons (turn : Turn P) (turns : List (Turn P)) :
    pushed (turn :: turns) = turn.2.line?.toList ++ pushed turns := by
  unfold pushed
  rw [List.filterMap_cons]
  cases turn.2.line? <;> rfl

theorem pushed_append (turns turns' : List (Turn P)) :
    pushed (turns ++ turns') = pushed turns ++ pushed turns' :=
  List.filterMap_append

theorem pushed_singleton (turn : Turn P) : pushed [turn] = turn.2.line?.toList := by
  rw [pushed_cons]
  exact List.append_nil _

/-- **A history loses and repeats no line.** -/
theorem output_serve (log : Log) (turns : List (Turn P)) :
    (log.serve turns).output = log.records ++ pushed turns := by
  induction turns generalizing log with
  | nil => exact (List.append_nil _).symm
  | cons turn turns ih =>
    have hrest := ih (log.perform turn.2).2
    have hone := log.taken_perform turn.1 turn.2
    unfold Service.output at hrest ⊢
    rw [serve_cons, List.flatMap_cons, List.append_assoc, hrest, ← List.append_assoc, hone,
      List.append_assoc, ← pushed_cons]

theorem output_serve_empty (turns : List (Turn P)) : (empty.serve turns).output = pushed turns :=
  output_serve empty turns

/-! ## What a log holds -/

theorem sinceTake_concat_of_ne (turns : List (Turn P)) {turn : Turn P} (h : turn.2 ≠ .take) :
    sinceTake (turns ++ [turn]) = sinceTake turns ++ [turn] :=
  List.rtakeWhile_concat_pos _ _ _ (by simpa using h)

theorem sinceTake_concat_take (turns : List (Turn P)) (user : P) :
    sinceTake (turns ++ [(user, .take)]) = [] :=
  List.rtakeWhile_concat_neg _ _ _ (by simp)

theorem records_perform_of_ne (log : Log) {op : Operation} (h : op ≠ .take) :
    (log.perform op).2.records = log.records ++ op.line?.toList := by
  rw [← log.taken_perform () op]
  cases op with
  | take => exact absurd rfl h
  | info _ | error _ | records => rfl

/-- **A log holds what was pushed since lines were last taken.** -/
theorem records_serve (turns : List (Turn P)) :
    (empty.serve turns).log.records = pushed (sinceTake turns) := by
  induction turns using List.reverseRecOn with
  | nil => rfl
  | append_singleton turns turn ih =>
    obtain ⟨user, op⟩ := turn
    rw [serve_append]
    show ((empty.serve turns).log.perform op).2.records = _
    -- a take empties both sides, and all else adds its line behind them
    by_cases h : op = .take
    · subst h
      rw [sinceTake_concat_take]
      rfl
    · rw [sinceTake_concat_of_ne turns h, records_perform_of_ne _ h, ih, pushed_append,
        pushed_singleton]

/-! ## To look at the lines changes nothing -/

/-- **A history goes the same way if nobody looks at the lines.** -/
theorem serve_filter_records (log : Log) (turns : List (Turn P)) :
    log.serve (turns.filter (·.2 ≠ .records)) =
      ⟨(log.serve turns).uses.filter (·.operation ≠ .records), (log.serve turns).log⟩ := by
  induction turns generalizing log with
  | nil => rfl
  | cons turn turns ih =>
    obtain ⟨user, op⟩ := turn
    rw [serve_cons]
    by_cases h : op = .records
    · subst h
      rw [List.filter_cons_of_neg (by simp), List.filter_cons_of_neg (by simp)]
      exact ih log
    · rw [List.filter_cons_of_pos (by simpa using h), List.filter_cons_of_pos (by simpa using h),
        serve_cons, ih]

/-! ## Users -/

variable [DecidableEq P]

theorem pushed_ofUser_sublist (user : P) (turns : List (Turn P)) :
    (pushed (ofUser user turns)).Sublist (pushed turns) :=
  List.filter_sublist.filterMap _

theorem perm_of_ofUser {turns turns' : List (Turn P)}
    (h : ∀ user, ofUser user turns' = ofUser user turns) : turns'.Perm turns := by
  refine List.perm_iff_count.mpr fun turn => ?_
  -- a turn is found among those of its user as often as among all
  have hcount : ∀ ts : List (Turn P), (ofUser turn.1 ts).count turn = ts.count turn := fun ts =>
    List.count_filter (by simp)
  rw [← hcount turns', ← hcount turns, h]

/-- **A log that is shared loses and repeats nothing**: what all users take, and then what is left,
is what was pushed, in order, and who looks changes nothing. -/
theorem serve_loses_and_repeats_nothing (turns : List (Turn P)) :
    let s := empty.serve turns
    s.uses.flatMap Use.taken ++ s.log.records = pushed turns ∧
      (∀ before user after, turns = before ++ (user, .records) :: after →
        s.uses[before.length]? = some ⟨user, .records, pushed (sinceTake before)⟩) ∧
      empty.serve (turns.filter (·.2 ≠ .records)) =
        ⟨s.uses.filter (·.operation ≠ .records), s.log⟩ ∧
      (∀ user, (pushed (ofUser user turns)).Sublist s.output) ∧
      ∀ turns', (∀ user, ofUser user turns' = ofUser user turns) →
        (empty.serve turns').output.Perm s.output := by
  intro s
  have hout : s.output = pushed turns := output_serve_empty turns
  refine ⟨hout, ?_, serve_filter_records empty turns, ?_, ?_⟩
  · rintro before user after rfl
    rw [← records_serve before]
    exact getElem?_uses_serve empty before after (user, .records)
  · intro user
    rw [hout]
    exact pushed_ofUser_sublist user turns
  · intro turns' hown
    rw [hout, output_serve_empty]
    exact (perm_of_ofUser hown).filterMap _

/-- Two users, of whom one looks before and after the other takes what is there. -/
theorem serve_loses_and_repeats_nothing_two_users :
    let turns : List (Turn (Fin 2)) :=
      [(0, .info "open"), (1, .error "closed"), (1, .records), (0, .take), (0, .info "late"),
        (1, .records)]
    let turns' : List (Turn (Fin 2)) :=
      [(1, .error "closed"), (0, .info "open"), (0, .take), (1, .records), (0, .info "late"),
        (1, .records)]
    let s := empty.serve turns
    s.uses.flatMap Use.taken ++ s.log.records =
        [⟨.info, "open"⟩, ⟨.error, "closed"⟩, ⟨.info, "late"⟩] ∧
      s.uses[2]? = some ⟨1, .records, [⟨.info, "open"⟩, ⟨.error, "closed"⟩]⟩ ∧
      s.uses[5]? = some ⟨1, .records, [⟨.info, "late"⟩]⟩ ∧
      (∀ user, ofUser user turns' = ofUser user turns) ∧
      (empty.serve turns').output.Perm s.output := by
  intro turns turns' s
  obtain ⟨hout, hshown, -, -, hperm⟩ := serve_loses_and_repeats_nothing turns
  have hown : ∀ user, ofUser user turns' = ofUser user turns := by decide
  exact ⟨hout, hshown (turns.take 2) 1 (turns.drop 3) rfl, hshown (turns.take 5) 1 [] rfl, hown,
    hperm turns' hown⟩

end Turns

end QuestCheck.Log
