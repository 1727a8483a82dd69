import QuestCheck.Proofs.Acceptance
import QuestCheck.Proofs.Phases

/-!
# Actors do not interfere

A check that is examined for an actor asks for outcomes and values on behalf of that actor alone.
So worlds that tell the actor the same cannot be told apart by the run, whatever they tell anybody
else. That a variable which any actor has is bound to actors does not matter here: this rule counts
only where there is no actor.

* `Procedure.Keeps.run_congr`: two handlers that answer alike whatever is asked;
* `World.AlikeFor`: two worlds tell an actor the same, with `AlikeFor.evaluate_eq` and `resolve_eq`;
* `World.alikeFor_setActor`: what is written for another actor is not told;
* `Terms.onBehalf`: nothing is asked for anybody else; `Check.keeps_onBehalf_examine`;
* **`run_eq_of_alike`**: a check that depends on its actor runs alike in such worlds.
-/

namespace QuestCheck

open Procedure Surroundings

variable {α σ : Type} {a : Actor} {w w' : World}

/-- **Handlers that answer alike whatever is asked** give the same run. -/
theorem Procedure.Keeps.run_congr {t : Terms} {p : Procedure α} (hp : p.Keeps t)
    {h h' : Handler σ}
    (hh : ∀ r, t.asks r → ∀ s, h' r s = h r s ∧ t.trusts ⟨r, (h r s).1⟩) (s : σ) :
    p.run h' s = p.run h s := by
  induction p generalizing s with
  | done value => rfl
  | fail fault => rfl
  | ask r next ih =>
    obtain ⟨hsame, htrust⟩ := hh r hp.1 s
    rw [run_ask, run_ask, hsame, ih _ (hp.2 _ htrust)]

theorem Procedure.run_bind_congr {β : Type} {p : Procedure α} {f : α → Procedure β}
    {h h' : Handler σ} {s : σ} (hp : p.run h' s = p.run h s)
    (hf : ∀ value, (p.run h s).result = .ok value →
      ∀ s₁, (f value).run h' s₁ = (f value).run h s₁) :
    (p >>= f).run h' s = (p >>= f).run h s := by
  rw [run_bind, run_bind, hp]
  cases hresult : (p.run h s).result with
  | error fault => rfl
  | ok value => simp only [hf value hresult]

/-! ## Worlds that tell an actor the same -/

/-- The worlds tell the actor the same: they have the same conditions with the same defaults and
with the same outcomes for the actor, the same global values and the same values for the actor. -/
structure World.AlikeFor (a : Actor) (w w' : World) : Prop where
  conditions : ∀ name, name ∈ w'.conditions.entries ↔ name ∈ w.conditions.entries
  default : ∀ name, (w'.conditions.entry name).default = (w.conditions.entry name).default
  outcome : ∀ name,
    (w'.conditions.entry name).actors[a.id]? = (w.conditions.entry name).actors[a.id]?
  global : w'.vars.global = w.vars.global
  vars : w'.vars.ofActor a.id = w.vars.ofActor a.id

namespace World.AlikeFor

theorem evaluate_eq (h : AlikeFor a w w') (condition : QualifiedName) :
    w'.conditions.evaluate (some a) condition = w.conditions.evaluate (some a) condition := by
  have hentry : (w'.conditions.entry condition.display).outcome (some a) =
      (w.conditions.entry condition.display).outcome (some a) := by
    simp only [Conditions.Entry.outcome, Option.bind_some, h.outcome, h.default]
  unfold Conditions.evaluate
  simp only [Conditions.outcome_eq, h.conditions, hentry]

theorem resolve_eq (h : AlikeFor a w w') (name : String) :
    w'.vars.resolve (some a) name = w.vars.resolve (some a) name := by
  unfold Variables.resolve Variables.value
  simp only [h.global, h.vars]

end World.AlikeFor

theorem World.alikeFor_setActor (w : World) {other condition : String} (hother : other ≠ a.id)
    (hcondition : condition ∈ w.conditions.entries) (outcome : Bool) (name value : String) :
    w.AlikeFor a
      ⟨w.conditions.setActor condition other outcome, w.vars.setActor other name value⟩ := by
  refine ⟨fun known => ?_, fun known => ?_, fun known => ?_, rfl, ?_⟩
  · exact Dict.mem_insert_iff.trans (or_iff_right_of_imp fun heq => heq ▸ hcondition)
  · rw [Conditions.entry_setActor]
    by_cases hknown : known = condition
    · rw [if_pos hknown, hknown]
    · rw [if_neg hknown]
  · rw [Conditions.entry_setActor]
    by_cases hknown : known = condition
    · rw [if_pos hknown, hknown, Dict.getElem?_insert_of_ne _ hother]
    · rw [if_neg hknown]
  · exact Variables.ofActor_setActor_of_ne _ hother name value

/-! ## Requests on behalf of an actor -/

/-- Outcomes and values are asked for the actor only, and not what is known. -/
def Terms.onBehalf (a : Actor) : Terms where
  asks
    | .evaluate actor _ | .resolve actor _ => actor = some a
    | .knowsCondition _ | .knowsVariable _ => False
    | .report _ | .note _ => True
  trusts _ := True
  fails _ := True

theorem keeps_onBehalf_ofExcept (x : Except Fault α) : (ofExcept x).Keeps (.onBehalf a) := by
  cases x <;> trivial

theorem World.AlikeFor.handler_eq (h : AlikeFor a w w') {r : Request}
    (hr : (Terms.onBehalf a).asks r) (log : Log) :
    w'.surroundings.handler r log = w.surroundings.handler r log := by
  cases r with
  | knowsCondition condition | knowsVariable name => exact hr.elim
  | evaluate actor condition =>
    obtain rfl : actor = some a := hr
    exact congrArg (·, log) (h.evaluate_eq condition)
  | resolve actor name =>
    obtain rfl : actor = some a := hr
    exact congrArg (·, log) (h.resolve_eq name)
  | report line | note event => rfl

theorem World.AlikeFor.run_eq (h : AlikeFor a w w') {p : Procedure α} (hp : p.Keeps (.onBehalf a))
    (log : Log) : w'.surroundings.run p log = w.surroundings.run p log :=
  hp.run_congr (fun _ hr _ => ⟨h.handler_eq hr _, trivial⟩) log

namespace Check

variable {i : Instruction} {c : Check}

theorem keeps_onBehalf_forField (h : said i = .ok c) (f : Field) :
    (c.forField f (some a)).Keeps (.onBehalf a) :=
  keeps_forField h (fun _ => ⟨rfl, fun _ _ => keeps_onBehalf_ofExcept _⟩) (fun _ _ => trivial) f

theorem keeps_onBehalf_examine (h : said i = .ok c) :
    (c.examine (some a)).Keeps (.onBehalf a) :=
  keeps_examine (fun _ => trivial) (fun _ => trivial)
    (fun _ => ⟨rfl, fun _ _ => keeps_onBehalf_ofExcept _⟩) (keeps_onBehalf_forField h)

/-- **Actors do not interfere.** In two worlds that tell an actor the same, a check is independent
alike, and unless it is, its runs for the actor are the same. -/
theorem run_eq_of_alike (h : w.AlikeFor a w') {c' : Check} {log₁ log₂ : Log}
    (hc : (w.surroundings.run (build i) log₁).result = .ok c)
    (hc' : (w'.surroundings.run (build i) log₂).result = .ok c') (log : Log) :
    let independence := (w.surroundings.run (c.independent.forRun (some a)) log).result
    (w'.surroundings.run (c'.independent.forRun (some a)) log).result = independence ∧
      (independence = .ok false ∨ (∃ fault, independence = .error fault) →
        w'.surroundings.run (c'.run (some a)) log = w.surroundings.run (c.run (some a)) log) := by
  intro independence
  -- both worlds accept the check that the instruction says
  rw [result_run] at hc hc'
  have hsaid : said i = .ok c := (result_build_eq_ok_iff.mp hc).said
  obtain rfl : c = c' :=
    Except.ok.inj (hsaid.symm.trans (result_build_eq_ok_iff.mp hc').said)
  have hindependent := h.run_eq (keeps_onBehalf_forField hsaid .independent) log
  refine ⟨congrArg Outcome.result hindependent, fun hdepends => ?_⟩
  refine run_bind_congr hindependent fun independent hresult log' => ?_
  cases independent with
  | true =>
    have htrue : independence = .ok true := hresult
    rcases hdepends with hfalse | ⟨fault, hfault⟩
    · cases htrue.symm.trans hfalse
    · cases htrue.symm.trans hfault
  | false => exact h.run_eq (keeps_onBehalf_examine hsaid) log'

/-- Another actor makes the variable one of actors and has an outcome of the condition. -/
theorem run_eq_of_alike_neighbour :
    let w : World := ⟨Conditions.empty.setDefault "hasGold" true,
      Variables.empty.setGlobal "want" "false"⟩
    let w' : World := ⟨(Conditions.empty.setDefault "hasGold" true).setActor "hasGold" "P2" false,
      (Variables.empty.setGlobal "want" "false").setActor "P2" "want" "maybe"⟩
    let i : Instruction := ⟨⟨none, "t1"⟩, "test hasGold expected:%want%", "test",
      ["hasGold"], Dict.ofPairs [("expected", "%want%")]⟩
    w.AlikeFor ⟨"P1"⟩ w' ∧
      ∃ c c', (w.surroundings.run (build i) .empty).result = .ok c ∧
        (w'.surroundings.run (build i) .empty).result = .ok c' ∧
        w'.surroundings.run (c'.run (some ⟨"P1"⟩)) .empty =
          w.surroundings.run (c.run (some ⟨"P1"⟩)) .empty := by
  intro w w' i
  have hcondition : "hasGold" ∈ w.conditions.entries := by
    rw [Std.ExtTreeMap.mem_iff_isSome_getElem?, Conditions.entries_setDefault_self]
    rfl
  have hother : "P2" ≠ "P1" := by decide
  have halike : w.AlikeFor ⟨"P1"⟩ w' :=
    w.alikeFor_setActor hother hcondition false "want" "maybe"
  have hdepends : ∀ c, said i = .ok c →
      (w.surroundings.run (c.independent.forRun (some ⟨"P1"⟩)) .empty).result = .ok false := by
    rintro c ⟨⟩
    rfl
  cases hc : (w.surroundings.run (build i) .empty).result with
  | error fault => cases hc
  | ok c =>
    cases hc' : (w'.surroundings.run (build i) .empty).result with
    | error fault => cases hc'
    | ok c' =>
      refine ⟨halike, c, c', rfl, rfl, (run_eq_of_alike halike hc hc' .empty).2 (.inl ?_)⟩
      exact hdepends c (result_build_eq_ok_iff.mp hc).said

end Check

end QuestCheck
