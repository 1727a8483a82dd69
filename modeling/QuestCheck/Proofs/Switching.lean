import QuestCheck.Proofs.Acceptance

/-!
# Tables that are exchanged

Checks keep none of the answers of loading. The tables of conditions and variables are shared with
whoever may put others in their place, between loading and running as well: what they say while a
check is loaded decides whether it is accepted, and nothing of it is left in the check.

* `World.shared`: shared tables and a log, `run_shared`: a run leaves the tables as they are;
* `Check.result_build_of_unknown`: an instruction that is accepted elsewhere is rejected only for
  something that is not known;
* **`Check.tables_decide_acceptance_only`**: loaded with any tables, run with any others.
-/

namespace QuestCheck

open Procedure Surroundings

variable {α : Type} {i : Instruction}

/-! ## Shared tables -/

/-- The tables that are in place answer, and the log takes the lines of the report. -/
def World.shared : Handler (World × Log) := fun r tables =>
  ((tables.1.surroundings.handler r tables.2).1,
    tables.1, (tables.1.surroundings.handler r tables.2).2)

/-- **A run leaves the tables as they are** and comes to what it comes to in their world. -/
theorem World.run_shared (w : World) (p : Procedure α) (log : Log) :
    p.run shared (w, log) =
      ⟨(w.surroundings.run p log).result, (w.surroundings.run p log).exchanges,
        (w, (w.surroundings.run p log).state)⟩ := by
  unfold Surroundings.run
  induction p generalizing log with
  | done a => rfl
  | fail fault => rfl
  | ask r next ih =>
    rw [run_ask, run_ask]
    show ((next _).run shared (w, _)).after _ = _
    rw [ih]
    rfl

theorem World.result_shared (w : World) (p : Procedure α) (log : Log) :
    (p.run shared (w, log)).result = w.surroundings.result p := by
  rw [run_shared, result_run]

namespace Check

/-! ## Acceptance -/

theorem Accepted.of_known {s s' : Surroundings} {c : Check} (h : Accepted s i c)
    (hknown : ∀ (f : Field) (q : Question), f.question? i = some q → s'.knows q = true) :
    Accepted s' i c :=
  ⟨h.kind_eq, h.others, hknown, h.said⟩

theorem Accepted.result_build_of_unknown {s s' : Surroundings} {c : Check} (h : Accepted s i c)
    (hunknown : ¬ ∀ (f : Field) (q : Question), f.question? i = some q → s'.knows q = true) :
    ∃ (f : Field) (q : Question), f.question? i = some q ∧ s'.knows q = false ∧
      s'.result (build i) = .error (Rejection.fault ⟨i.id.display, f.unknown q⟩) := by
  cases hvet : s'.result i.vetAll with
  | ok u =>
    have hvetted := Instruction.result_vetAll_eq_ok_iff.mp hvet
    exact absurd (fun f => (hvetted f).known) hunknown
  | error fault =>
    have hbuild := result_build_of_vetAll_error h.kind_eq h.others hvet
    obtain ⟨f, -, hfault⟩ := exists_error_of_forM hvet
    obtain ⟨p, hp, -⟩ := forField_of_said h.said f
    unfold Field.vet at hfault
    cases hq : f.question? i with
    | none =>
      simp only [hp, hq] at hfault
      cases hfault
    | some q =>
      simp only [hp, hq] at hfault
      rw [result_bind_of_ok (s'.result_ask_question q)] at hfault
      cases hknows : s'.knows q with
      | true =>
        rw [hknows] at hfault
        cases hfault
      | false =>
        rw [hknows] at hfault
        obtain rfl : Rejection.fault ⟨i.id.display, f.unknown q⟩ = fault := Except.error.inj hfault
        exact ⟨f, q, hq, hknows, hbuild⟩

/-! ## Running with other tables -/

/-- **Checks hold nothing of the tables that they were loaded with.** Tables decide only whether an
instruction is built; checks that were built with any of them run alike. -/
theorem tables_decide_acceptance_only {w₁ w₂ : World} {log₁ log₂ : Log} {c₁ c₂ : Check}
    (h₁ : ((build i).run World.shared (w₁, log₁)).result = .ok c₁)
    (h₂ : ((build i).run World.shared (w₂, log₂)).result = .ok c₂) (w : World) :
    (∀ actor log, (c₂.run actor).run World.shared (w, log) =
        (c₁.run actor).run World.shared (w, log)) ∧
      (∀ c log₃, ((build i).run World.shared (w, log₃)).result = .ok c →
        ∀ actor log, (c.run actor).run World.shared (w, log) =
          (c₁.run actor).run World.shared (w, log)) ∧
      (∀ f : Field, ∃ p, f.parameter i = .ok p ∧
        ∀ actor, c₁.forField f actor = p.forRun actor ∧ c₂.forField f actor = p.forRun actor) ∧
      ∀ log₃, let known := ∀ (f : Field) (q : Question), f.question? i = some q →
          w.surroundings.knows q = true
        (known → ∃ c, ((build i).run World.shared (w, log₃)).result = .ok c) ∧
          (¬ known → ∃ (f : Field) (q : Question), f.question? i = some q ∧
            w.surroundings.knows q = false ∧
            ((build i).run World.shared (w, log₃)).result =
              .error (Rejection.fault ⟨i.id.display, f.unknown q⟩)) := by
  simp only [World.result_shared] at h₁ h₂ ⊢
  have haccepted₁ := result_build_eq_ok_iff.mp h₁
  have hsame : ∀ {s : Surroundings} {c : Check}, s.result (build i) = .ok c → c = c₁ := by
    intro s c hc
    have hsaid := (result_build_eq_ok_iff.mp hc).said
    exact Except.ok.inj (hsaid.symm.trans haccepted₁.said)
  obtain rfl : c₂ = c₁ := hsame h₂
  refine ⟨fun _ _ => rfl, fun c _ hc _ _ => by rw [hsame hc], fun f => ?_, fun _ => ⟨?_, ?_⟩⟩
  · obtain ⟨p, hp, hrun⟩ := forField_of_said haccepted₁.said f
    exact ⟨p, hp, fun actor => ⟨hrun actor, hrun actor⟩⟩
  · intro hknown
    exact ⟨_, result_build_eq_ok_iff.mpr (haccepted₁.of_known hknown)⟩
  · exact haccepted₁.result_build_of_unknown

/-- Built with two values of a variable, and run with a third. -/
theorem tables_decide_acceptance_only_want :
    let w₁ : World := ⟨Conditions.empty.setDefault "hasGold" true,
      Variables.empty.setGlobal "want" "true"⟩
    let w₂ : World := ⟨Conditions.empty.setDefault "hasGold" false,
      Variables.empty.setActor "P2" "want" "maybe"⟩
    let w : World := ⟨Conditions.empty.setDefault "hasGold" true,
      Variables.empty.setGlobal "want" "false"⟩
    let i : Instruction := ⟨⟨none, "t1"⟩, "test hasGold expected:%want%", "test",
      ["hasGold"], Dict.ofPairs [("expected", "%want%")]⟩
    ∃ c₁ c₂, ((build i).run World.shared (w₁, .empty)).result = .ok c₁ ∧
      ((build i).run World.shared (w₂, .empty)).result = .ok c₂ ∧
      (c₂.run (some ⟨"P1"⟩)).run World.shared (w, .empty) =
        (c₁.run (some ⟨"P1"⟩)).run World.shared (w, .empty) := by
  intro w₁ w₂ w i
  cases h₁ : ((build i).run World.shared (w₁, .empty)).result with
  | error fault => cases h₁
  | ok c₁ =>
    cases h₂ : ((build i).run World.shared (w₂, .empty)).result with
    | error fault => cases h₂
    | ok c₂ =>
      exact ⟨c₁, c₂, rfl, rfl, (tables_decide_acceptance_only h₁ h₂ w).1 (some ⟨"P1"⟩) .empty⟩

end Check

end QuestCheck
