import QuestCheck.Check.Run
import QuestCheck.Proofs.Course

/-!
# The protocol of a run

Whatever the parts of a check are, its run makes one call after another: for the independence, the
condition, the expected outcome, the actual outcome, and one message. It stops at the first call
that fails, or behind the independence where the check depends on an actor and there is none.

* `Check.Call`, its `procedure`, and `Check.Made`, a call with the exchanges it took and its answer;
* `Check.Findings`: the values on which a run hangs, and from them its `calls` and its `line`;
* `Check.Follows`: calls made in order, up to the first that fails;
* `follows_of_course`: every course of a run follows its calls;
* **`run_keeps_protocol`**: the calls of a run, their actors, and what comes of them.
-/

namespace QuestCheck.Check

open Procedure

variable {σ : Type}

/-! ## Calls -/

/-- What the run of a check calls for: a part of the check for an actor, or the outcome of a
condition for an actor. -/
inductive Call where
  | independence (actor : Option Actor)
  | condition (actor : Option Actor)
  | expected (actor : Option Actor)
  | evaluate (actor : Option Actor) (condition : QualifiedName)
  | message (success : Bool) (actor : Option Actor)
  deriving DecidableEq, Repr

namespace Call

/-- What a call finds. -/
@[reducible] def Found : Call → Type
  | independence _ | expected _ | evaluate .. => Bool
  | condition _ => QualifiedName
  | message .. => Template

/-- The procedure that is called. -/
def procedure (c : Check) : (k : Call) → Procedure k.Found
  | independence actor => c.independent.forRun actor
  | condition actor => c.condition.forRun actor
  | expected actor => c.expected.forRun actor
  | evaluate actor name => Procedure.evaluate actor name
  | message true actor => c.success.forRun actor
  | message false actor => c.failure.forRun actor

end Call

/-- A call that was made: the exchanges it took, and the value or the fault it ended in. -/
structure Made (c : Check) where
  call : Call
  exchanges : List Exchange
  answer : Except Fault call.Found
  course : (call.procedure c).Course exchanges answer

/-- The lines that the called procedure itself reports. -/
def Made.lines {c : Check} (m : Made c) : List Line := reportedLines m.exchanges

/-- No part of the check reports a line of its own. -/
def Quiet (c : Check) : Prop := ∀ k : Call, (k.procedure c).Asks Request.Silent

theorem Quiet.lines_eq_nil {c : Check} (hc : c.Quiet) (m : Made c) : m.lines = [] :=
  (hc m.call).reportedLines_eq_nil m.course

/-- The values on which a run hangs, whether it gets to them or not. -/
structure Findings where
  independent : Bool
  condition : QualifiedName
  expected : Bool
  actual : Bool
  message : Template

namespace Findings

/-- The check depends on an actor, and there is none. -/
def Skips (f : Findings) (actor : Option Actor) : Prop := f.independent = false ∧ actor = none

instance (f : Findings) (actor : Option Actor) : Decidable (f.Skips actor) :=
  inferInstanceAs (Decidable (_ ∧ _))

/-- The actor for whom all but the independence is found: nobody if the check is independent. -/
def effective (f : Findings) (actor : Option Actor) : Option Actor :=
  if f.independent then none else actor

/-- The call for the one message that is reported: that of the success if the actual outcome is the
expected one, and else that of the failure. -/
def messageCall (f : Findings) (actor : Option Actor) : Call :=
  .message (f.actual = f.expected) actor

/-- The calls of an examination for an actor. -/
def examination (f : Findings) (actor : Option Actor) : List Call :=
  [.condition actor, .expected actor, .evaluate actor f.condition, f.messageCall actor]

/-- The calls of a run in which none fails. -/
def calls (f : Findings) (actor : Option Actor) : List Call :=
  .independence actor :: if f.Skips actor then [] else f.examination (f.effective actor)

/-- The value that a call finds. -/
def value (f : Findings) : (k : Call) → k.Found
  | .independence _ => f.independent
  | .condition _ => f.condition
  | .expected _ => f.expected
  | .evaluate .. => f.actual
  | .message .. => f.message

/-- The line of a check that is examined. -/
def verdict (f : Findings) (c : Check) : Line :=
  if f.actual = f.expected then ⟨.info, f.message.fill [c.id.display, f.condition.display]⟩
  else ⟨.error, f.message.fill [c.id.display, f.condition.display, Truth.text f.expected,
    Truth.text f.actual]⟩

/-- The line of a run in which no call fails. -/
def line (f : Findings) (c : Check) (actor : Option Actor) : Line :=
  if f.Skips actor then ⟨.error, c.skip.fill [c.id.display]⟩ else f.verdict c

/-- The event that the run leaves before a call. -/
def eventBefore (f : Findings) (c : Check) : Call → List Exchange
  | .evaluate actor condition => [⟨.note (.evaluating c.id condition actor f.expected), ()⟩]
  | _ => []

/-- The exchanges of a call, and before them the event that the run leaves. -/
def span (f : Findings) (c : Check) (m : Made c) : List Exchange :=
  f.eventBefore c m.call ++ m.exchanges

/-- The exchanges of a run behind its last call, in which it reports its line. -/
def close (f : Findings) (c : Check) (actor : Option Actor) : List Exchange :=
  (if f.Skips actor then [⟨.note (.skipped c.id), ()⟩] else []) ++
    [⟨.report (f.line c actor), ()⟩]

end Findings

/-! ## Following calls -/

/-- The calls of a list are made in order until one fails, and find the values they should. -/
inductive Follows (c : Check) (f : Findings) :
    List Call → List (Made c) → Except Fault Unit → Prop
  | finished : Follows c f [] [] (.ok ())
  | found {k : Call} {ks : List Call} {made : List (Made c)} {result : Except Fault Unit}
      {es : List Exchange} {v : k.Found} (course : (k.procedure c).Course es (.ok v))
      (value : v = f.value k) (rest : Follows c f ks made result) :
      Follows c f (k :: ks) (⟨k, es, .ok v, course⟩ :: made) result
  | failed {k : Call} {ks : List Call} {es : List Exchange} {fault : Fault}
      (course : (k.procedure c).Course es (.error fault)) :
      Follows c f (k :: ks) [⟨k, es, .error fault, course⟩] (.error fault)

namespace Follows

variable {c : Check} {f : Findings} {ks : List Call} {made : List (Made c)}
  {result : Except Fault Unit}

theorem calls_prefix (h : Follows c f ks made result) : made.map (·.call) <+: ks := by
  induction h with
  | finished => exact List.prefix_rfl
  | found course value rest ih => exact List.cons_prefix_cons.mpr ⟨rfl, ih⟩
  | failed course => exact List.cons_prefix_cons.mpr ⟨rfl, List.nil_prefix⟩

theorem ends (h : Follows c f ks made result) :
    (∃ before last fault, made = before ++ [last] ∧
        (∀ m ∈ before, m.answer = .ok (f.value m.call)) ∧ last.answer = .error fault ∧
        result = .error fault) ∨
      ((∀ m ∈ made, m.answer = .ok (f.value m.call)) ∧ made.map (·.call) = ks ∧
        result = .ok ()) := by
  induction h with
  | finished => exact .inr ⟨by simp, rfl, rfl⟩
  | found course value rest ih =>
    subst value
    rcases ih with ⟨before, last, fault, rfl, hbefore, hlast, hresult⟩ | ⟨hmade, hcalls, hresult⟩
    · refine .inl ⟨_ :: before, last, fault, rfl, ?_, hlast, hresult⟩
      exact List.forall_mem_cons.mpr ⟨rfl, hbefore⟩
    · refine .inr ⟨List.forall_mem_cons.mpr ⟨rfl, hmade⟩, ?_, hresult⟩
      rw [List.map_cons, hcalls]
  | failed course => exact .inl ⟨[], _, _, rfl, by simp, rfl, rfl⟩

end Follows

/-! ## Courses of a run -/

/-- The exchanges behind the last call: none behind a call that fails. -/
def closing (result : Except Fault Unit) (es : List Exchange) : List Exchange :=
  match result with
  | .ok _ => es
  | .error _ => []

theorem conclude_eq (c : Check) (actor : Option Actor) (f : Findings) :
    c.conclude actor f.condition f.expected f.actual =
      (f.messageCall actor).procedure c >>= fun message : Template =>
        let line := { f with message }.verdict c
        Procedure.report line.severity line.text := by
  obtain ⟨independent, condition, expected, actual, message⟩ := f
  cases expected <;> cases actual <;> rfl

theorem follows_of_course_conclude {c : Check} {actor : Option Actor} (f : Findings)
    {es : List Exchange} {result : Except Fault Unit}
    (h : (c.conclude actor f.condition f.expected f.actual).Course es result) :
    ∃ (message : Template) (made : List (Made c)),
      let f' : Findings := { f with message }
      Follows c f' [f'.messageCall actor] made result ∧
        es = made.flatMap (f'.span c) ++ closing result [⟨.report (f'.verdict c), ()⟩] := by
  rw [conclude_eq] at h
  rcases course_bind_iff.mp h with ⟨fault, hm, rfl⟩ | ⟨message, es₁, es₂, rfl, hm, hr⟩
  · refine ⟨f.message, [⟨f.messageCall actor, es, .error fault, hm⟩], .failed hm, ?_⟩
    simp [Findings.span, Findings.eventBefore, Findings.messageCall, closing]
  · obtain ⟨rfl, rfl⟩ := course_report_iff.mp hr
    refine ⟨message, [⟨f.messageCall actor, es₁, .ok message, hm⟩], .found hm rfl .finished, ?_⟩
    simp [Findings.span, Findings.eventBefore, Findings.messageCall, closing]

theorem follows_of_course_examine {c : Check} {actor : Option Actor} {es : List Exchange}
    {result : Except Fault Unit} (h : (c.examine actor).Course es result) (independent : Bool) :
    ∃ (f : Findings) (made : List (Made c)), f.independent = independent ∧
      Follows c f (f.examination actor) made result ∧
        es = made.flatMap (f.span c) ++ closing result [⟨.report (f.verdict c), ()⟩] := by
  unfold examine at h
  rcases course_bind_iff.mp h with ⟨fault, hc, rfl⟩ | ⟨condition, es₁, rest, rfl, hc, h₁⟩
  · refine ⟨⟨independent, ⟨none, ""⟩, false, false, ⟨[]⟩⟩,
      [⟨.condition actor, es, .error fault, hc⟩], rfl, .failed (k := .condition actor) hc, ?_⟩
    simp [Findings.span, Findings.eventBefore, closing]
  rcases course_bind_iff.mp h₁ with ⟨fault, he, rfl⟩ | ⟨expected, es₂, rest, rfl, he, h₂⟩
  · refine ⟨⟨independent, condition, false, false, ⟨[]⟩⟩,
      [⟨.condition actor, es₁, .ok condition, hc⟩, ⟨.expected actor, rest, .error fault, he⟩], rfl,
      .found (k := .condition actor) hc rfl (.failed (k := .expected actor) he), ?_⟩
    simp [Findings.span, Findings.eventBefore, closing]
  rcases course_bind_iff.mp h₂ with ⟨fault, hn, rfl⟩ | ⟨⟨⟩, es₀, rest, rfl, hn, h₃⟩
  · cases (course_note_iff.mp hn).2
  obtain ⟨rfl, -⟩ := course_note_iff.mp hn
  rcases course_bind_iff.mp h₃ with ⟨fault, ha, rfl⟩ | ⟨actual, es₃, es₄, rfl, ha, h₄⟩
  · refine ⟨⟨independent, condition, expected, false, ⟨[]⟩⟩,
      [⟨.condition actor, es₁, .ok condition, hc⟩, ⟨.expected actor, es₂, .ok expected, he⟩,
        ⟨.evaluate actor condition, rest, .error fault, ha⟩], rfl,
      .found (k := .condition actor) hc rfl (.found (k := .expected actor) he rfl
        (.failed (k := .evaluate actor condition) ha)), ?_⟩
    simp [Findings.span, Findings.eventBefore, closing]
  obtain ⟨message, made, hm, rfl⟩ :=
    follows_of_course_conclude ⟨independent, condition, expected, actual, ⟨[]⟩⟩ h₄
  refine ⟨⟨independent, condition, expected, actual, message⟩,
    ⟨.condition actor, es₁, .ok condition, hc⟩ :: ⟨.expected actor, es₂, .ok expected, he⟩ ::
      ⟨.evaluate actor condition, es₃, .ok actual, ha⟩ :: made, rfl,
    .found (k := .condition actor) hc rfl (.found (k := .expected actor) he rfl
      (.found (k := .evaluate actor condition) ha rfl hm)), ?_⟩
  simp [Findings.span, Findings.eventBefore]

/-- **Every course of a run follows its calls**, and only then reports its line. -/
theorem follows_of_course {c : Check} {actor : Option Actor} {es : List Exchange}
    {result : Except Fault Unit} (h : (c.run actor).Course es result) :
    ∃ (f : Findings) (made : List (Made c)), Follows c f (f.calls actor) made result ∧
      es = made.flatMap (f.span c) ++ closing result (f.close c actor) := by
  unfold run at h
  rcases course_bind_iff.mp h with ⟨fault, hi, rfl⟩ | ⟨independent, es₁, rest, rfl, hi, h₁⟩
  · refine ⟨⟨false, ⟨none, ""⟩, false, false, ⟨[]⟩⟩,
      [⟨.independence actor, es, .error fault, hi⟩], .failed (k := .independence actor) hi, ?_⟩
    simp [Findings.span, Findings.eventBefore, closing]
  by_cases hskip : independent = false ∧ actor = none
  · obtain ⟨rfl, rfl⟩ := hskip
    rcases course_bind_iff.mp h₁ with ⟨fault, hn, rfl⟩ | ⟨⟨⟩, es₂, es₃, rfl, hn, hr⟩
    · cases (course_note_iff.mp hn).2
    obtain ⟨rfl, -⟩ := course_note_iff.mp hn
    obtain ⟨rfl, rfl⟩ := course_report_iff.mp hr
    refine ⟨⟨false, ⟨none, ""⟩, false, false, ⟨[]⟩⟩,
      [⟨.independence none, es₁, .ok false, hi⟩],
      .found (k := .independence none) hi rfl .finished, ?_⟩
    simp [Findings.span, Findings.eventBefore, Findings.close, Findings.line, Findings.Skips,
      closing]
  · -- an independent check is examined for nobody, another one for the actor of the run
    have hexamine : (c.examine (if independent then none else actor)).Course rest result := by
      cases independent with
      | true => exact h₁
      | false =>
        cases actor with
        | none => exact absurd ⟨rfl, rfl⟩ hskip
        | some a => exact h₁
    obtain ⟨f, made, rfl, hf, rfl⟩ := follows_of_course_examine hexamine independent
    have hcalls : f.calls actor = .independence actor :: f.examination (f.effective actor) :=
      congrArg (Call.independence actor :: ·) (if_neg hskip)
    refine ⟨f, ⟨.independence actor, es₁, .ok f.independent, hi⟩ :: made, ?_, ?_⟩
    · rw [hcalls]
      exact .found (k := .independence actor) hi rfl hf
    · have hclose : f.close c actor = [⟨.report (f.verdict c), ()⟩] := by
        have hnot : ¬ f.Skips actor := hskip
        rw [Findings.close, if_neg hnot, Findings.line, if_neg hnot]
        rfl
      rw [hclose]
      simp [Findings.span, Findings.eventBefore]

/-! ## Lines of a run -/

@[simp] theorem reportedLines_eventBefore (f : Findings) (c : Check) (k : Call) :
    reportedLines (f.eventBefore c k) = [] := by
  cases k <;> rfl

theorem reportedLines_spans (f : Findings) (c : Check) (made : List (Made c)) :
    reportedLines (made.flatMap (f.span c)) = made.flatMap Made.lines := by
  induction made with
  | nil => rfl
  | cons m made ih =>
    rw [List.flatMap_cons, List.flatMap_cons, reportedLines_append, ih, Findings.span,
      reportedLines_append, reportedLines_eventBefore, List.nil_append]
    rfl

@[simp] theorem reportedLines_close (f : Findings) (c : Check) (actor : Option Actor) :
    reportedLines (f.close c actor) = [f.line c actor] := by
  unfold Findings.close
  split <;> rfl

theorem Quiet.lines_of_course {c : Check} (hc : c.Quiet) {actor : Option Actor}
    {es : List Exchange} {result : Except Fault Unit} (h : (c.run actor).Course es result) :
    (∃ fault, result = .error fault ∧ reportedLines es = []) ∨
      (result = .ok () ∧ ∃ line, reportedLines es = [line]) := by
  obtain ⟨f, made, -, rfl⟩ := follows_of_course h
  have hmade : made.flatMap Made.lines = [] :=
    List.flatMap_eq_nil_iff.mpr fun m _ => hc.lines_eq_nil m
  cases result with
  | error fault =>
    refine .inl ⟨fault, rfl, ?_⟩
    rw [reportedLines_append, reportedLines_spans, hmade]
    rfl
  | ok u =>
    refine .inr ⟨rfl, f.line c actor, ?_⟩
    rw [reportedLines_append, reportedLines_spans, hmade, List.nil_append]
    exact reportedLines_close f c actor

/-- **The calls of a run and what comes of them**: they are made in their order for the right actor,
up to the first that fails, whose fault is the result; where none fails, one line is reported. -/
theorem run_keeps_protocol (h : Handler σ) (s : σ) (c : Check) (actor : Option Actor) :
    let o := (c.run actor).run h s
    ∃ (f : Findings) (made : List (Made c)),
      made.map (·.call) <+: f.calls actor ∧
        ((∃ before last fault, made = before ++ [last] ∧
            (∀ m ∈ before, m.answer = .ok (f.value m.call)) ∧ last.answer = .error fault ∧
            o.result = .error fault ∧ o.exchanges = made.flatMap (f.span c) ∧
            o.lines = made.flatMap Made.lines ∧ (c.Quiet → o.lines = [])) ∨
          (made.map (·.call) = f.calls actor ∧ (∀ m ∈ made, m.answer = .ok (f.value m.call)) ∧
            o.result = .ok () ∧ o.exchanges = made.flatMap (f.span c) ++ f.close c actor ∧
            o.lines = made.flatMap Made.lines ++ [f.line c actor] ∧
            (c.Quiet → o.lines = [f.line c actor]))) := by
  intro o
  obtain ⟨f, made, hfollows, hexchanges⟩ := follows_of_course (course_run h (c.run actor) s)
  have hquiet : c.Quiet → made.flatMap Made.lines = [] := fun hc =>
    List.flatMap_eq_nil_iff.mpr fun m _ => hc.lines_eq_nil m
  refine ⟨f, made, hfollows.calls_prefix, ?_⟩
  rcases hfollows.ends with ⟨before, last, fault, hmade, hbefore, hlast, hresult⟩ |
    ⟨hmade, hcalls, hresult⟩
  · have hes : o.exchanges = made.flatMap (f.span c) := by
      rw [hexchanges, hresult]
      exact List.append_nil _
    have hlines : o.lines = made.flatMap Made.lines := by
      rw [lines_eq_reportedLines, hes, reportedLines_spans]
    exact .inl ⟨before, last, fault, hmade, hbefore, hlast, hresult, hes, hlines,
      fun hc => hlines.trans (hquiet hc)⟩
  · have hes : o.exchanges = made.flatMap (f.span c) ++ f.close c actor := by
      rw [hexchanges, hresult]
      rfl
    have hlines : o.lines = made.flatMap Made.lines ++ [f.line c actor] := by
      rw [lines_eq_reportedLines, hes, reportedLines_append, reportedLines_spans,
        reportedLines_close]
    refine .inr ⟨hcalls, hmade, hresult, hes, hlines, fun hc => ?_⟩
    rw [hlines, hquiet hc, List.nil_append]

end QuestCheck.Check
