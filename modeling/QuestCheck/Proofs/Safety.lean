import QuestCheck.Proofs.Acceptance
import QuestCheck.Proofs.Histories

/-!
# Safety of accepted checks

A check that was accepted in a world can fail there for reasons of the tables alone: a variable of
actors without an actor or without a value, a value that does not convert, or a condition without
an outcome. What loading has checked does not fail any more.

* `Variables.resolve_eq_error`, `Conditions.evaluate_eq_error`: what is missing in a table;
* `Check.FoundFor`: the actor for whom a field is found in a run;
* `Check.origin_of_error`: the field or the condition from which a fault comes;
* `Check.Lapse`: the faults that are left, each with its reason;
* **`fails_by_lapses_only`**: an accepted check fails for such a reason, or not at all.
-/

namespace QuestCheck

open Procedure Surroundings

/-! ## What is missing in a table -/

/-- A known variable without a value is bound to actors, and has none for this one and no global
one. -/
theorem Variables.resolve_eq_error {t : Variables} {name : String} {actor : Option Actor}
    {fault : Fault} (hknown : t.knows name = true) (h : t.resolve actor name = .error fault) :
    (∃ other, name ∈ t.ofActor other) ∧
      (actor = none ∧ fault = .actorMissing (reference name) ∨
        ∃ a, actor = some a ∧ name ∉ t.ofActor a.id ∧ name ∉ t.global ∧
          fault = .unusable (reference name) ("no value for actor \"" ++ a.id ++ "\"")) := by
  have hbound : t.isActorBound name = true := by
    by_contra hnot
    have hfree : ∀ other, name ∉ t.ofActor other := fun other hother =>
      hnot (isActorBound_iff.mpr ⟨other, hother⟩)
    rw [knows, Bool.or_eq_true, or_iff_left hnot, Std.ExtTreeMap.contains_iff_mem] at hknown
    obtain ⟨value, hvalue⟩ := Dict.mem_iff_exists.mp hknown
    rw [resolve_of_global hvalue hfree] at h
    cases h
  refine ⟨isActorBound_iff.mp hbound, ?_⟩
  cases actor with
  | none =>
    rw [resolve_none_of_bound hbound] at h
    exact .inl ⟨rfl, (Except.error.inj h).symm⟩
  | some a =>
    rw [resolve_some] at h
    cases hor : (t.held (.actor a.id name)).or (t.held (.global name)) with
    | some value =>
      rw [hor] at h
      cases h
    | none =>
      rw [hor] at h
      obtain ⟨hown, hall⟩ := Option.or_eq_none_iff.mp hor
      exact .inr ⟨a, rfl, Dict.getElem?_eq_none_iff.mp hown, Dict.getElem?_eq_none_iff.mp hall,
        (Except.error.inj h).symm⟩

theorem Conditions.outcome_eq_error {t : Conditions} {condition : String} {actor : Option Actor}
    {gap : Gap} (h : t.outcome actor condition = .error gap) :
    gap = .unknown ∧ condition ∉ t.entries ∨
      gap = actor.elim .needsActor .noOutcome ∧ ∃ e, t.entries[condition]? = some e ∧
        e.default = none ∧ ∀ a, actor = some a → a.id ∉ e.actors := by
  unfold outcome at h
  cases hentry : t.entries[condition]? with
  | none =>
    simp only [hentry, Except.error.injEq] at h
    exact .inl ⟨h.symm, Dict.getElem?_eq_none_iff.mp hentry⟩
  | some e =>
    simp only [hentry] at h
    unfold Entry.outcome at h
    cases actor with
    | none =>
      cases hdefault : e.default with
      | some value => simp [hdefault] at h
      | none =>
        simp only [hdefault, Option.bind_none, Except.error.injEq] at h
        exact .inr ⟨h.symm, e, rfl, hdefault, nofun⟩
    | some a =>
      cases hown : e.actors[a.id]? with
      | some value => simp [hown] at h
      | none =>
        cases hdefault : e.default with
        | some value => simp [hown, hdefault] at h
        | none =>
          simp only [hown, hdefault, Option.bind_some, Except.error.injEq] at h
          refine .inr ⟨h.symm, e, rfl, hdefault, fun b hb => ?_⟩
          obtain rfl : a = b := Option.some.inj hb
          exact Dict.getElem?_eq_none_iff.mp hown

theorem Conditions.evaluate_eq_error {t : Conditions} {condition : QualifiedName}
    {actor : Option Actor} {fault : Fault} (h : t.evaluate actor condition = .error fault) :
    ∃ gap, t.outcome actor condition.display = .error gap ∧
      fault = .unevaluable condition.display gap.reason := by
  unfold evaluate at h
  cases ho : t.outcome actor condition.display with
  | ok value => simp [ho, Except.mapError] at h
  | error gap =>
    simp only [ho, Except.mapError, Except.error.injEq] at h
    exact ⟨gap, rfl, h.symm⟩

/-! ## Where a fault comes from -/

namespace Check

variable {s : Surroundings} {i : Instruction} {c : Check} {actor : Option Actor} {fault : Fault}

/-- The actor for whom a field is found in a run: the actor of the run for the independence, and for
all other fields nobody if the check is independent, and else the actor of the run. -/
def FoundFor (s : Surroundings) (c : Check) (actor : Option Actor) (f : Field)
    (found : Option Actor) : Prop :=
  if f = .independent then found = actor
  else ∃ independent, s.result (c.forField .independent actor) = .ok independent ∧
    found = if independent then none else actor

theorem origin_of_examine_error {found : Option Actor}
    (h : s.result (c.examine found) = .error fault) :
    (∃ f : Field, f ≠ .independent ∧ s.result (c.forField f found) = .error fault) ∨
      ∃ condition, s.result (c.forField .condition found) = .ok condition ∧
        s.conditions.evaluate found condition = .error fault := by
  unfold examine at h
  rcases result_bind_eq_error_iff.mp h with h | ⟨condition, hcondition, h⟩
  · exact .inl ⟨.condition, Field.noConfusion, h⟩
  rcases result_bind_eq_error_iff.mp h with h | ⟨expected, -, h⟩
  · exact .inl ⟨.expected, Field.noConfusion, h⟩
  rw [result_bind_of_ok (s.result_note _)] at h
  rcases result_bind_eq_error_iff.mp h with h | ⟨actual, -, h⟩
  · rw [result_evaluate] at h
    exact .inr ⟨condition, hcondition, h⟩
  · unfold conclude at h
    split_ifs at h with hsame
    · rcases result_bind_eq_error_iff.mp h with h | ⟨message, -, h⟩
      · exact .inl ⟨.success, Field.noConfusion, h⟩
      · cases h
    · rcases result_bind_eq_error_iff.mp h with h | ⟨message, -, h⟩
      · exact .inl ⟨.failure, Field.noConfusion, h⟩
      · cases h

/-- **Where a fault of a run comes from**: a field, or the evaluation of the condition that was
found. -/
theorem origin_of_error (h : s.result (c.run actor) = .error fault) :
    (∃ f found, c.FoundFor s actor f found ∧ s.result (c.forField f found) = .error fault) ∨
      ∃ found condition, c.FoundFor s actor .condition found ∧
        s.result (c.forField .condition found) = .ok condition ∧
        s.conditions.evaluate found condition = .error fault := by
  unfold run at h
  rcases result_bind_eq_error_iff.mp h with h | ⟨independent, hindependent, h⟩
  · exact .inl ⟨.independent, actor, rfl, h⟩
  have hfound : ∀ f : Field, f ≠ .independent →
      c.FoundFor s actor f (if independent then none else actor) := by
    intro f hf
    unfold FoundFor
    rw [if_neg hf]
    exact ⟨independent, hindependent, rfl⟩
  have hexamine : s.result (c.examine (if independent then none else actor)) = .error fault := by
    cases independent with
    | true => exact h
    | false =>
      cases actor with
      | none =>
        -- a check that is skipped does not fail
        cases h
      | some a => exact h
  rcases origin_of_examine_error hexamine with ⟨f, hf, h⟩ | ⟨condition, hcondition, h⟩
  · exact .inl ⟨f, _, hfound f hf, h⟩
  · exact .inr ⟨_, condition, hfound .condition Field.noConfusion, hcondition, h⟩

/-! ## Fields of an accepted check -/

theorem Accepted.error_forField (hc : Accepted s i c) {f : Field} {found : Option Actor}
    (h : s.result (c.forField f found) = .error fault) :
    ∃ name, f.Refers i name ∧ s.vars.knows name = true ∧
      (s.vars.resolve found name = .error fault ∨
        ∃ text cause, s.vars.resolve found name = .ok text ∧ f.read text = .error cause ∧
          fault = .unusable (i.id.display ++ "." ++ f.key) cause.message) := by
  obtain ⟨p, hp, hforRun⟩ := forField_of_said hc.said f
  rw [hforRun] at h
  rcases Field.parameter_eq_ok hp with ⟨value, rfl⟩ | ⟨name, hrefers, hquestion, rfl⟩
  · cases h
  refine ⟨name, hrefers, hc.known f _ hquestion, ?_⟩
  rw [Parameter.forRun_computed, Instruction.lookUp] at h
  rcases result_bind_eq_error_iff.mp h with h | ⟨text, htext, h⟩
  · exact .inl (by rwa [result_resolve] at h)
  · rw [result_resolve] at htext
    refine .inr ⟨text, ?_⟩
    cases hread : f.read text with
    | ok value =>
      rw [hread] at h
      cases h
    | error cause =>
      rw [hread] at h
      cases h
      exact ⟨cause, htext, rfl, rfl⟩

theorem Accepted.known_of_condition (hc : Accepted s i c) {found : Option Actor}
    {condition : QualifiedName} (h : s.result (c.forField .condition found) = .ok condition) :
    (∃ name, Field.condition.Refers i name) ∨ s.conditions.knows condition = true := by
  obtain ⟨p, hp, hforRun⟩ := forField_of_said hc.said .condition
  rw [hforRun] at h
  rcases Field.parameter_eq_ok hp with ⟨value, rfl⟩ | ⟨name, hrefers, -, -⟩
  · cases h
    exact .inr (hc.known _ _ (Field.question_of_fixed hp))
  · exact .inl ⟨name, hrefers⟩

/-! ## The faults that are left -/

/-- The faults that the run of an accepted check may end in, each with its reason. -/
inductive Lapse (w : World) (i : Instruction) (c : Check) (actor : Option Actor) : Fault → Prop
  /-- A variable of actors is looked up without an actor. -/
  | needsActor {f : Field} {name : String} (refers : f.Refers i name)
      (bound : ∃ other, name ∈ w.vars.ofActor other)
      (alone : c.FoundFor w.surroundings actor f none) :
      Lapse w i c actor (.actorMissing (Variables.reference name))
  /-- A variable of actors has no value for the actor, and no global one. -/
  | noValue {f : Field} {name : String} {a : Actor} (refers : f.Refers i name)
      (bound : ∃ other, name ∈ w.vars.ofActor other)
      (found : c.FoundFor w.surroundings actor f (some a))
      (noOwn : name ∉ w.vars.ofActor a.id) (noGlobal : name ∉ w.vars.global) :
      Lapse w i c actor (.unusable (Variables.reference name)
        ("no value for actor \"" ++ a.id ++ "\""))
  /-- What is looked up for a field does not convert. -/
  | misread {f : Field} {name text : String} {found : Option Actor} {cause : Misreading}
      (refers : f.Refers i name) (foundFor : c.FoundFor w.surroundings actor f found)
      (resolved : w.vars.resolve found name = .ok text) (misread : f.read text = .error cause) :
      Lapse w i c actor (.unusable (i.id.display ++ "." ++ f.key) cause.message)
  /-- A condition that was looked up is not in the table. -/
  | unknown {name : String} {found : Option Actor} {condition : QualifiedName}
      (refers : Field.condition.Refers i name)
      (foundFor : c.FoundFor w.surroundings actor .condition found)
      (resolved : w.surroundings.result (c.forField .condition found) = .ok condition)
      (missing : condition.display ∉ w.conditions.entries) :
      Lapse w i c actor (.unevaluable condition.display Conditions.Gap.unknown.reason)
  /-- The condition has no default and no outcome for the actor. -/
  | noOutcome {found : Option Actor} {condition : QualifiedName} {e : Conditions.Entry}
      (foundFor : c.FoundFor w.surroundings actor .condition found)
      (resolved : w.surroundings.result (c.forField .condition found) = .ok condition)
      (entry : w.conditions.entries[condition.display]? = some e) (noDefault : e.default = none)
      (noOwn : ∀ a, found = some a → a.id ∉ e.actors) :
      Lapse w i c actor (.unevaluable condition.display
        (found.elim Conditions.Gap.needsActor .noOutcome).reason)

theorem lapse_of_error {w : World} (hc : Accepted w.surroundings i c)
    (h : w.surroundings.result (c.run actor) = .error fault) : Lapse w i c actor fault := by
  rcases origin_of_error h with ⟨f, found, hfound, h⟩ | ⟨found, condition, hfound, hcondition, h⟩
  · obtain ⟨name, hrefers, hknown, h | ⟨text, cause, hresolve, hread, rfl⟩⟩ := hc.error_forField h
    · obtain ⟨hbound, ⟨rfl, rfl⟩ | ⟨a, rfl, hown, hglobal, rfl⟩⟩ :=
        Variables.resolve_eq_error hknown h
      · exact .needsActor hrefers hbound hfound
      · exact .noValue hrefers hbound hfound hown hglobal
    · exact .misread hrefers hfound hresolve hread
  · obtain ⟨gap, hgap, rfl⟩ := Conditions.evaluate_eq_error h
    rcases Conditions.outcome_eq_error hgap with ⟨rfl, hmissing⟩ | ⟨rfl, e, he, hdefault, hown⟩
    · rcases hc.known_of_condition hcondition with ⟨name, hrefers⟩ | hknown
      · exact .unknown hrefers hfound hcondition hmissing
      · exact absurd (Conditions.knows_iff.mp hknown) hmissing
    · exact .noOutcome hfound hcondition he hdefault hown

/-! ## Faults that are not left -/

theorem message_ne_noGlobal (cause : Misreading) : cause.message ≠ "no global value" := by
  cases cause with
  | notTruth text =>
    exact ne_of_head? (x := 'E') (head?_append (head?_append (by decide))) (by decide)
  | badPackage package =>
    exact ne_of_head? (x := 'I') (head?_append (head?_append (by decide))) (by decide)
  | badName text =>
    exact ne_of_head? (x := 'I') (head?_append (head?_append (by decide))) (by decide)
  | unknownMark mark text =>
    exact ne_of_head? (x := 'U') (head?_append (head?_append (head?_append
      (head?_append (by decide))))) (by decide)
  | danglingMark text =>
    exact ne_of_head? (x := 'M') (head?_append (head?_append (by decide))) (by decide)
  | tooManyHoles text holes arity =>
    exact ne_of_head? (x := 'M') (head?_append (head?_append (head?_append (head?_append
      (head?_append (head?_append (by decide))))))) (by decide)

theorem noValue_ne_noGlobal (a : Actor) :
    "no value for actor \"" ++ a.id ++ "\"" ≠ "no global value" := by
  intro h
  have hletters := congrArg String.toList h
  simp at hletters

theorem reason_ne_unknown (found : Option Actor) :
    (found.elim Conditions.Gap.needsActor .noOutcome).reason ≠ "unknown condition" := by
  cases found with
  | none => decide
  | some a =>
    exact ne_of_head? (x := 'n') (head?_append (head?_append (by decide))) (by decide)

namespace Lapse

variable {w : World}

theorem not_isMalformed (h : Lapse w i c actor fault) : ¬ fault.IsMalformed := by
  rintro ⟨subject, reason, rfl⟩
  cases h

theorem ne_noGlobal (h : Lapse w i c actor fault) (argument : String) :
    fault ≠ .unusable argument "no global value" := by
  rintro rfl
  generalize hreason : "no global value" = reason at h
  cases h with
  | noValue => exact noValue_ne_noGlobal _ hreason.symm
  | misread => exact message_ne_noGlobal _ hreason.symm

theorem refers_of_unknown {condition : String}
    (h : Lapse w i c actor (.unevaluable condition "unknown condition")) :
    ∃ name, Field.condition.Refers i name := by
  generalize hreason : "unknown condition" = reason at h
  cases h with
  | unknown refers => exact ⟨_, refers⟩
  | noOutcome => exact absurd hreason.symm (reason_ne_unknown _)

theorem entry_of_literal (h : Lapse w i c actor fault)
    (hliteral : ∀ f name, ¬ Field.Refers i f name) :
    ∃ (condition : String) (e : Conditions.Entry),
      w.conditions.entries[condition]? = some e ∧ e.default = none := by
  cases h with
  | needsActor refers | noValue refers | misread refers | unknown refers =>
    exact absurd refers (hliteral _ _)
  | noOutcome _ _ entry noDefault => exact ⟨_, _, entry, noDefault⟩

end Lapse

/-- **An accepted check fails by a lapse or not at all**, in the world in which it was built.
Without references it does not fail where every condition has a default. -/
theorem fails_by_lapses_only {w : World} {i : Instruction} {c : Check} {log : Log}
    (hc : (w.surroundings.run (build i) log).result = .ok c) (actor : Option Actor) (log' : Log) :
    (∀ fault, (w.surroundings.run (c.run actor) log').result = .error fault →
        Lapse w i c actor fault ∧ ¬ fault.IsMalformed ∧
          (∀ argument, fault ≠ .unusable argument "no global value") ∧
          ((∀ name, ¬ Field.condition.Refers i name) →
            ∀ condition, fault ≠ .unevaluable condition "unknown condition")) ∧
      ((∀ f name, ¬ Field.Refers i f name) →
        (∀ (condition : String) (e : Conditions.Entry),
          w.conditions.entries[condition]? = some e → e.default ≠ none) →
        (w.surroundings.run (c.run actor) log').result = .ok ()) := by
  rw [result_run] at hc
  rw [result_run]
  have haccepted : Accepted w.surroundings i c := result_build_eq_ok_iff.mp hc
  constructor
  · intro fault h
    have hlapse : Lapse w i c actor fault := lapse_of_error haccepted h
    refine ⟨hlapse, hlapse.not_isMalformed, hlapse.ne_noGlobal, ?_⟩
    rintro hliteral condition rfl
    obtain ⟨name, hrefers⟩ := hlapse.refers_of_unknown
    exact hliteral name hrefers
  · intro hliteral hdefault
    cases hresult : w.surroundings.result (c.run actor) with
    | ok u => rfl
    | error fault =>
      obtain ⟨condition, e, hentry, hnone⟩ :=
        (lapse_of_error haccepted hresult).entry_of_literal hliteral
      exact absurd hnone (hdefault condition e hentry)

/-- An independent check of a variable that only actors have: it is accepted, and its run lapses. -/
theorem fails_by_lapses_only_independent :
    let w : World := ⟨Conditions.empty.setDefault "hasGold" true,
      Variables.empty.setActor "P1" "want" "false"⟩
    let i : Instruction := ⟨⟨none, "t1"⟩, "test hasGold independent expected:%want%", "test",
      ["hasGold", "independent"], Dict.ofPairs [("expected", "%want%")]⟩
    ∃ c, (w.surroundings.run (build i) .empty).result = .ok c ∧
      (w.surroundings.run (c.run none) .empty).result = .error (.actorMissing "%want%") ∧
      Lapse w i c none (.actorMissing "%want%") := by
  intro w i
  have hlapse : w.surroundings.result ((build i).bind (·.run none)) =
      .error (.actorMissing "%want%") := by rfl
  rcases result_bind_eq_error_iff.mp hlapse with hc | ⟨c, hc, hrun⟩
  · cases hc
  · exact ⟨c, hc, hrun, ((fails_by_lapses_only hc none .empty).1 _ hrun).1⟩

end Check

end QuestCheck
