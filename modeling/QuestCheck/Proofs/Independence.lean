import QuestCheck.Proofs.Protocol
import QuestCheck.Proofs.Surroundings

/-!
# Independent checks

Whether a check is independent may itself hang on the actor of the run. Behind that, an independent
check is examined for nobody, so that two of its runs cannot be told apart.

* `run_of_independent`: the run of an independent check finds its independence, and then examines it
  for nobody;
* `calls_of_examine`: the calls of an examination;
* **`independent_runs_agree`**: the runs of an independent check for two actors, whoever answers.
-/

namespace QuestCheck.Check

open Procedure

variable {σ : Type} {h : Handler σ}

theorem run_of_independent {c : Check} {actor : Option Actor} {s : σ}
    (hi : ((c.independent.forRun actor).run h s).result = .ok true) :
    (c.run actor).run h s =
      ((c.examine none).run h ((c.independent.forRun actor).run h s).state).after
        ((c.independent.forRun actor).run h s).exchanges := by
  unfold run
  rw [run_bind]
  simp only [hi]
  rfl

theorem calls_of_examine (h : Handler σ) (c : Check) (actor : Option Actor) (s : σ) :
    let o := (c.examine actor).run h s
    ∃ (f : Findings) (made : List (Made c)), made.map (·.call) <+: f.examination actor ∧
      o.exchanges =
        made.flatMap (f.span c) ++ closing o.result [⟨.report (f.verdict c), ()⟩] := by
  intro o
  obtain ⟨f, made, -, hfollows, hexchanges⟩ :=
    follows_of_course_examine (course_run h (c.examine actor) s) true
  exact ⟨f, made, hfollows.calls_prefix, hexchanges⟩

theorem Quiet.lines_run {c : Check} (hc : c.Quiet) {actor : Option Actor} {s : σ}
    {rest : List Exchange}
    (he : ((c.run actor).run h s).exchanges =
      ((c.independent.forRun actor).run h s).exchanges ++ rest) :
    ((c.run actor).run h s).lines = reportedLines rest := by
  have hsilent : reportedLines ((c.independent.forRun actor).run h s).exchanges = [] :=
    (hc (.independence actor)).reportedLines_eq_nil (course_run h _ s)
  rw [lines_eq_reportedLines, he, reportedLines_append, hsilent, List.nil_append]

theorem Quiet.lines_closing {c : Check} (hc : c.Quiet) (f : Findings) (made : List (Made c))
    (result : Except Fault Unit) :
    reportedLines (made.flatMap (f.span c) ++ closing result [⟨.report (f.verdict c), ()⟩]) =
      if result.isOk then [f.verdict c] else [] := by
  have hmade : made.flatMap Made.lines = [] :=
    List.flatMap_eq_nil_iff.mpr fun m _ => hc.lines_eq_nil m
  rw [reportedLines_append, reportedLines_spans, hmade, List.nil_append]
  cases result <;> rfl

/-- **An independent check ignores the actor**: runs that find it independent, from states that are
answered alike, end in the same result, and behind the independence they exchange the same, all for
nobody. -/
theorem independent_runs_agree {R : σ → σ → Prop} (hR : Respects h R) (c : Check)
    {a₁ a₂ : Option Actor} {s₁ s₂ : σ}
    (h₁ : ((c.independent.forRun a₁).run h s₁).result = .ok true)
    (h₂ : ((c.independent.forRun a₂).run h s₂).result = .ok true)
    (hstates : R ((c.independent.forRun a₁).run h s₁).state
      ((c.independent.forRun a₂).run h s₂).state) :
    let o₁ := (c.run a₁).run h s₁
    let o₂ := (c.run a₂).run h s₂
    o₁.result = o₂.result ∧ R o₁.state o₂.state ∧
      ∃ (f : Findings) (made : List (Made c)) (rest : List Exchange),
        made.map (·.call) <+: f.examination none ∧
          rest = made.flatMap (f.span c) ++ closing o₁.result [⟨.report (f.verdict c), ()⟩] ∧
          o₁.exchanges = ((c.independent.forRun a₁).run h s₁).exchanges ++ rest ∧
          o₂.exchanges = ((c.independent.forRun a₂).run h s₂).exchanges ++ rest ∧
          (c.Quiet → o₁.lines = (if o₁.result.isOk then [f.verdict c] else []) ∧
            o₂.lines = o₁.lines) := by
  intro o₁ o₂
  have ho₁ : o₁ = _ := run_of_independent h₁
  have ho₂ : o₂ = _ := run_of_independent h₂
  obtain ⟨hresult, hexchanges, hend⟩ := hR.run (c.examine none) hstates
  obtain ⟨f, made, hcalls, hrest⟩ :=
    calls_of_examine h c none ((c.independent.forRun a₁).run h s₁).state
  have hr₁ : o₁.result =
      ((c.examine none).run h ((c.independent.forRun a₁).run h s₁).state).result := by
    rw [ho₁]
    rfl
  have hr₂ : o₂.result = o₁.result := by
    rw [hr₁, hresult, ho₂]
    rfl
  have he₁ : o₁.exchanges = ((c.independent.forRun a₁).run h s₁).exchanges ++
      (made.flatMap (f.span c) ++ closing o₁.result [⟨.report (f.verdict c), ()⟩]) := by
    rw [hr₁, ← hrest, ho₁]
    rfl
  have he₂ : o₂.exchanges = ((c.independent.forRun a₂).run h s₂).exchanges ++
      (made.flatMap (f.span c) ++ closing o₁.result [⟨.report (f.verdict c), ()⟩]) := by
    rw [hr₁, ← hrest, hexchanges, ho₂]
    rfl
  refine ⟨hr₂.symm, ?_, f, made, _, hcalls, rfl, he₁, he₂, fun hquiet => ?_⟩
  · rw [ho₁, ho₂]
    exact hend
  · have hl₁ := hquiet.lines_run he₁
    have hl₂ := hquiet.lines_run he₂
    exact ⟨hl₁.trans (hquiet.lines_closing f made _), hl₂.trans hl₁.symm⟩

/-- The flag says yes to both actors, and the condition has another outcome for one of them. -/
theorem independent_runs_agree_two_actors :
    let w : World :=
      ⟨(Conditions.empty.setDefault "open" true).setActor "open" "P1" false,
        (Variables.empty.setActor "P1" "alone" "yes").setActor "P2" "alone" "yes"⟩
    let c : Check :=
      { id := ⟨none, "t1"⟩
        condition := .computed fun actor => .done ⟨none, if actor.isSome then "own" else "open"⟩
        expected := .fixed true
        independent := ⟨some (.computed fun actor => (· == "yes") <$> resolve actor "alone"), false⟩
        failure := .fixed failureByDefault
        success := .fixed successByDefault
        skip := skipMessage }
    let o₁ := (c.run (some ⟨"P1"⟩)).run w.surroundings.handler .empty
    let o₂ := (c.run (some ⟨"P2"⟩)).run w.surroundings.handler .empty
    o₁.result = o₂.result ∧ ∃ rest,
      o₁.exchanges = ⟨.resolve (some ⟨"P1"⟩) "alone", .ok "yes"⟩ :: rest ∧
      o₂.exchanges = ⟨.resolve (some ⟨"P2"⟩) "alone", .ok "yes"⟩ :: rest := by
  intro w c o₁ o₂
  have hflag₁ : ((c.independent.forRun (some ⟨"P1"⟩)).run w.surroundings.handler .empty).result =
    .ok true := rfl
  have hflag₂ : ((c.independent.forRun (some ⟨"P2"⟩)).run w.surroundings.handler .empty).result =
    .ok true := rfl
  obtain ⟨hresult, -, f, made, rest, -, -, he₁, he₂, -⟩ :=
    independent_runs_agree w.surroundings.respects_handler c hflag₁ hflag₂ trivial
  exact ⟨hresult, rest, he₁, he₂⟩

end QuestCheck.Check
