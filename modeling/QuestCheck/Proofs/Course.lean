import Mathlib.Data.List.Forall2
import QuestCheck.Procedure

/-!
# Courses of a procedure

Which way a procedure takes depends on the answers that it gets. A course is one such way with its
end; whatever holds of all courses holds of every run, whoever answers.

* `Procedure.Course`, and `Procedure.Yields`, the values in which a course can end;
* `course_bind_iff`, `yields_bind_iff`, `yields_mapM_iff`: the courses of a sequence;
* `Asks.of_mem`: on a course only what may be asked is asked;
* `Respects.run`: runs from states that are answered alike are alike;
* `reportedLines`: the lines among some exchanges; `Request.Silent`: nothing is reported;
* **`course_run`**: a run takes a course, whoever answers.
-/

namespace QuestCheck

/-- The request is not a line for the report. -/
def Request.Silent (r : Request) : Prop := ∀ line, r ≠ .report line

namespace Procedure

variable {α β σ : Type}

/-- One way through a procedure: the exchanges in order, and the value or the fault at its end. -/
inductive Course : Procedure α → List Exchange → Except Fault α → Prop
  | done (a : α) : Course (done a) [] (.ok a)
  | fail (fault : Fault) : Course (fail fault) [] (.error fault)
  | ask {r : Request} {next : r.Answer → Procedure α} {answer : r.Answer} {es : List Exchange}
      {result : Except Fault α} (rest : Course (next answer) es result) :
      Course (ask r next) (⟨r, answer⟩ :: es) result

theorem course_done_iff {a : α} {es : List Exchange} {result : Except Fault α} :
    (done a).Course es result ↔ es = [] ∧ result = .ok a := by
  constructor
  · rintro ⟨⟩
    exact ⟨rfl, rfl⟩
  · rintro ⟨rfl, rfl⟩
    exact .done a

theorem course_fail_iff {fault : Fault} {es : List Exchange} {result : Except Fault α} :
    (fail fault).Course es result ↔ es = [] ∧ result = .error fault := by
  constructor
  · rintro ⟨⟩
    exact ⟨rfl, rfl⟩
  · rintro ⟨rfl, rfl⟩
    exact .fail fault

theorem course_ask_iff {r : Request} {next : r.Answer → Procedure α} {es : List Exchange}
    {result : Except Fault α} :
    (ask r next).Course es result ↔
      ∃ answer rest, es = ⟨r, answer⟩ :: rest ∧ (next answer).Course rest result := by
  constructor
  · rintro ⟨⟩
    exact ⟨_, _, rfl, by assumption⟩
  · rintro ⟨answer, rest, rfl, h⟩
    exact .ask h

theorem course_single_iff {r : Request} {es : List Exchange} {result : Except Fault r.Answer} :
    (ask r done).Course es result ↔ ∃ answer, es = [⟨r, answer⟩] ∧ result = .ok answer := by
  simp only [course_ask_iff, course_done_iff]
  constructor
  · rintro ⟨answer, _, rfl, rfl, rfl⟩
    exact ⟨answer, rfl, rfl⟩
  · rintro ⟨answer, rfl, rfl⟩
    exact ⟨answer, [], rfl, rfl, rfl⟩

theorem course_note_iff {event : Event} {es : List Exchange} {result : Except Fault Unit} :
    (note event).Course es result ↔ es = [⟨.note event, ()⟩] ∧ result = .ok () := by
  rw [note, course_single_iff]
  exact ⟨fun ⟨⟨⟩, h⟩ => h, fun h => ⟨(), h⟩⟩

theorem course_report_iff {severity : Severity} {text : String} {es : List Exchange}
    {result : Except Fault Unit} :
    (report severity text).Course es result ↔
      es = [⟨.report ⟨severity, text⟩, ()⟩] ∧ result = .ok () := by
  rw [report, course_single_iff]
  exact ⟨fun ⟨⟨⟩, h⟩ => h, fun h => ⟨(), h⟩⟩

/-- **The courses of a sequence**: one of the first part, and then one of the second if it has not
failed. -/
theorem course_bind_iff {p : Procedure α} {f : α → Procedure β} {es : List Exchange}
    {result : Except Fault β} :
    (p >>= f).Course es result ↔
      (∃ fault, p.Course es (.error fault) ∧ result = .error fault) ∨
        ∃ a es₁ es₂, es = es₁ ++ es₂ ∧ p.Course es₁ (.ok a) ∧ (f a).Course es₂ result := by
  induction p generalizing es with
  | done a =>
    rw [done_bind]
    constructor
    · intro h
      exact .inr ⟨a, [], es, rfl, .done a, h⟩
    · rintro (⟨fault, h, rfl⟩ | ⟨b, es₁, es₂, rfl, h, hf⟩)
      · cases h
      · cases h
        exact hf
  | fail fault =>
    rw [fail_bind]
    constructor
    · intro h
      obtain ⟨rfl, rfl⟩ := course_fail_iff.mp h
      exact .inl ⟨fault, .fail fault, rfl⟩
    · rintro (⟨fault, h, rfl⟩ | ⟨b, es₁, es₂, rfl, h, hf⟩)
      · cases h
        exact .fail _
      · cases h
  | ask r next ih =>
    rw [ask_bind, course_ask_iff]
    constructor
    · rintro ⟨answer, rest, rfl, h⟩
      rcases (ih answer).mp h with ⟨fault, hp, rfl⟩ | ⟨a, es₁, es₂, rfl, hp, hf⟩
      · exact .inl ⟨fault, .ask hp, rfl⟩
      · exact .inr ⟨a, ⟨r, answer⟩ :: es₁, es₂, rfl, .ask hp, hf⟩
    · rintro (⟨fault, h, rfl⟩ | ⟨a, es₁, es₂, rfl, h, hf⟩)
      · obtain ⟨answer, rest, rfl, hr⟩ := course_ask_iff.mp h
        exact ⟨answer, rest, rfl, (ih answer).mpr (.inl ⟨fault, hr, rfl⟩)⟩
      · obtain ⟨answer, rest, rfl, hr⟩ := course_ask_iff.mp h
        exact ⟨answer, rest ++ es₂, rfl, (ih answer).mpr (.inr ⟨a, rest, es₂, rfl, hr, hf⟩)⟩

/-- **A run takes a course**, whoever answers. -/
theorem course_run (h : Handler σ) (p : Procedure α) (s : σ) :
    p.Course (p.run h s).exchanges (p.run h s).result := by
  induction p generalizing s with
  | done a => exact .done a
  | fail fault => exact .fail fault
  | ask r next ih => exact .ask (ih _ _)

theorem Asks.of_mem {allowed : Request → Prop} {p : Procedure α} {es : List Exchange}
    {result : Except Fault α} (hp : p.Asks allowed) (h : p.Course es result) {e : Exchange}
    (he : e ∈ es) : allowed e.request := by
  induction h with
  | done a => cases he
  | fail fault => cases he
  | ask rest ih =>
    rcases List.mem_cons.mp he with rfl | he
    · exact hp.1
    · exact ih (hp.2 _) he

/-! ## Runs from two states -/

/-- Two states in the relation are answered alike, and they stay in it whatever is asked. -/
def Respects (h : Handler σ) (R : σ → σ → Prop) : Prop :=
  ∀ (r : Request) (s t : σ), R s t → (h r s).1 = (h r t).1 ∧ R (h r s).2 (h r t).2

/-- **Runs from states that are answered alike** are alike. -/
theorem Respects.run {h : Handler σ} {R : σ → σ → Prop} (hR : Respects h R) (p : Procedure α)
    {s t : σ} (hst : R s t) :
    (p.run h s).result = (p.run h t).result ∧ (p.run h s).exchanges = (p.run h t).exchanges ∧
      R (p.run h s).state (p.run h t).state := by
  induction p generalizing s t with
  | done a => exact ⟨rfl, rfl, hst⟩
  | fail fault => exact ⟨rfl, rfl, hst⟩
  | ask r next ih =>
    obtain ⟨hanswer, hnext⟩ := hR r s t hst
    rw [run_ask, run_ask, ← hanswer]
    obtain ⟨hresult, hexchanges, hstate⟩ := ih (h r s).1 hnext
    refine ⟨hresult, ?_, hstate⟩
    show _ :: _ = _ :: _
    rw [hexchanges]

/-! ## Lines on a course -/

/-- The lines that are reported in some exchanges. -/
def reportedLines (es : List Exchange) : List Line :=
  es.filterMap fun e =>
    match e.request with
    | .report line => some line
    | _ => none

theorem lines_eq_reportedLines (o : Outcome σ α) : o.lines = reportedLines o.exchanges := rfl

@[simp] theorem reportedLines_nil : reportedLines [] = [] := rfl

@[simp] theorem reportedLines_append (es₁ es₂ : List Exchange) :
    reportedLines (es₁ ++ es₂) = reportedLines es₁ ++ reportedLines es₂ :=
  List.filterMap_append

@[simp] theorem reportedLines_note (event : Event) (es : List Exchange) :
    reportedLines (⟨.note event, ()⟩ :: es) = reportedLines es := rfl

@[simp] theorem reportedLines_report (line : Line) (es : List Exchange) :
    reportedLines (⟨.report line, ()⟩ :: es) = line :: reportedLines es := rfl

theorem Asks.reportedLines_eq_nil {p : Procedure α} {es : List Exchange} {result : Except Fault α}
    (hp : p.Asks Request.Silent) (h : p.Course es result) : reportedLines es = [] := by
  refine List.filterMap_eq_nil_iff.mpr fun e he => ?_
  have hsilent := hp.of_mem h he
  obtain ⟨request, answer⟩ := e
  cases request with
  | report line => exact absurd rfl (hsilent line)
  | _ => rfl

/-! ## Values at the end of a course -/

/-- Some course of the procedure ends in the value. -/
def Yields (p : Procedure α) (a : α) : Prop := ∃ es, p.Course es (.ok a)

theorem yields_of_run {h : Handler σ} {p : Procedure α} {s : σ} {a : α}
    (hr : (p.run h s).result = .ok a) : p.Yields a :=
  ⟨_, hr ▸ course_run h p s⟩

@[simp] theorem yields_done_iff {a b : α} : (done a).Yields b ↔ b = a := by
  constructor
  · rintro ⟨es, h⟩
    cases h
    rfl
  · rintro rfl
    exact ⟨[], .done _⟩

@[simp] theorem not_yields_fail {fault : Fault} {a : α} : ¬ (fail fault).Yields a := by
  rintro ⟨es, h⟩
  cases h

theorem yields_bind_iff {p : Procedure α} {f : α → Procedure β} {b : β} :
    (p >>= f).Yields b ↔ ∃ a, p.Yields a ∧ (f a).Yields b := by
  constructor
  · rintro ⟨es, h⟩
    rcases course_bind_iff.mp h with ⟨fault, _, hr⟩ | ⟨a, es₁, es₂, rfl, hp, hf⟩
    · cases hr
    · exact ⟨a, ⟨es₁, hp⟩, ⟨es₂, hf⟩⟩
  · rintro ⟨a, ⟨es₁, hp⟩, ⟨es₂, hf⟩⟩
    exact ⟨es₁ ++ es₂, course_bind_iff.mpr (.inr ⟨a, es₁, es₂, rfl, hp, hf⟩)⟩

theorem yields_mapM_iff {f : α → Procedure β} {xs : List α} {ys : List β} :
    (xs.mapM f).Yields ys ↔ List.Forall₂ (fun x y => (f x).Yields y) xs ys := by
  induction xs generalizing ys with
  | nil => simp
  | cons x xs ih =>
    rw [List.mapM_cons, yields_bind_iff, List.forall₂_cons_left_iff]
    simp only [yields_bind_iff, ih, pure_eq, yields_done_iff]
    constructor
    · rintro ⟨y, hy, ys, hys, rfl⟩
      exact ⟨y, ys, hy, hys, rfl⟩
    · rintro ⟨y, ys, hy, hys, rfl⟩
      exact ⟨y, hy, ys, hys, rfl⟩

theorem exists_mem_of_forall₂ {R : α → β → Prop} {xs : List α} {ys : List β}
    (h : List.Forall₂ R xs ys) {y : β} (hy : y ∈ ys) : ∃ x ∈ xs, R x y := by
  induction h with
  | nil => cases hy
  | @cons x z xs zs hz hrest ih =>
    rcases List.mem_cons.mp hy with rfl | hy
    · exact ⟨x, List.mem_cons_self, hz⟩
    · obtain ⟨x', hx', hy'⟩ := ih hy
      exact ⟨x', List.mem_cons_of_mem x hx', hy'⟩

/-- Either nothing in a list has a property, or there is a first that has it. -/
theorem exists_first (p : α → Prop) (xs : List α) :
    (∀ x ∈ xs, ¬ p x) ∨
      ∃ before x after, xs = before ++ x :: after ∧ (∀ y ∈ before, ¬ p y) ∧ p x := by
  induction xs with
  | nil => exact .inl (List.forall_mem_nil _)
  | cons x xs ih =>
    by_cases hx : p x
    · exact .inr ⟨[], x, xs, rfl, List.forall_mem_nil _, hx⟩
    · rcases ih with hnone | ⟨before, y, after, rfl, hbefore, hy⟩
      · exact .inl (List.forall_mem_cons.mpr ⟨hx, hnone⟩)
      · exact .inr ⟨x :: before, y, after, rfl, List.forall_mem_cons.mpr ⟨hx, hbefore⟩, hy⟩

end Procedure

end QuestCheck
