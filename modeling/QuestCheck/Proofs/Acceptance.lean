import QuestCheck.Proofs.Fields
import QuestCheck.Proofs.Surroundings

/-!
# What loading accepts

In surroundings whose sources answer alike at any time, an instruction is accepted exactly if it is
of the right kind, every token behind the condition is a flag, every field means something and
everything that the fields ask for is known. The accepted check is the one that it says.

* `Surroundings.knows`: the answer to a question;
* `Field.Vetted`, `result_vet_eq_ok_iff`: a field that is accepted;
* `Check.Accepted`, `exists_accepted_iff`; **`result_build_eq_ok_iff`**: what is accepted, and as
  which check;
* `result_build_of_vetAll_error`: an instruction is rejected for the first field that is.
-/

namespace QuestCheck

open Procedure Surroundings

variable {α : Type} {s : Surroundings} {i : Instruction}

/-- The answer to a question. -/
def Surroundings.knows (s : Surroundings) : Question → Bool
  | .condition name => s.conditions.knows name
  | .reference name => s.vars.knows name

@[simp] theorem Surroundings.result_ask_question (s : Surroundings) (q : Question) :
    s.result q.ask = .ok (s.knows q) := by
  cases q <;> rfl

/-- The field means something, and what it asks for is known. -/
structure Field.Vetted (s : Surroundings) (i : Instruction) (f : Field) : Prop where
  meaning : ∃ p, f.parameter i = .ok p
  known : ∀ q, f.question? i = some q → s.knows q = true

@[simp] theorem Surroundings.result_reject (s : Surroundings) (i : Instruction) (defect : Defect) :
    s.result (i.reject defect : Procedure α) =
      .error (Rejection.fault ⟨i.id.display, defect⟩) := rfl

theorem Field.result_vet_eq_ok_iff {f : Field} :
    s.result (f.vet i) = .ok () ↔ f.Vetted s i := by
  unfold vet
  cases hp : f.parameter i with
  | error defect =>
    simp only [result_reject, reduceCtorEq, false_iff]
    rintro ⟨⟨p, hp'⟩, -⟩
    cases hp.symm.trans hp'
  | ok p =>
    cases hq : f.question? i with
    | none => exact iff_of_true rfl ⟨⟨p, hp⟩, fun q h => nomatch hq.symm.trans h⟩
    | some q =>
      simp only
      rw [result_bind_of_ok (s.result_ask_question q)]
      cases hknown : s.knows q with
      | true =>
        refine iff_of_true rfl ⟨⟨p, hp⟩, fun q' h => ?_⟩
        obtain rfl : q = q' := Option.some.inj (hq.symm.trans h)
        exact hknown
      | false =>
        refine iff_of_false nofun fun h => ?_
        rw [h.known q hq] at hknown
        cases hknown

theorem Instruction.result_vetAll_eq_ok_iff :
    s.result i.vetAll = .ok () ↔ ∀ f : Field, f.Vetted s i := by
  unfold vetAll
  rw [result_forM_eq_ok_iff]
  exact ⟨fun h f => Field.result_vet_eq_ok_iff.mp (h f f.mem_all),
    fun h f _ => Field.result_vet_eq_ok_iff.mpr (h f)⟩

theorem Instruction.result_warnOthers (s : Surroundings) (i : Instruction) (known : List String) :
    s.result (i.warnOthers known) = .ok () :=
  result_forM_eq_ok_iff.mpr fun _ _ => rfl

theorem Instruction.result_rejectOthers_eq_ok_iff {index : Nat} {flags : List String} :
    s.result (i.rejectOthers index flags) = .ok () ↔
      ∀ token ∈ i.positional.drop index, token ∈ flags := by
  unfold rejectOthers
  cases hfind : (i.positional.drop index).find? (· ∉ flags) with
  | none => simpa using hfind
  | some token =>
    refine iff_of_false nofun fun h => ?_
    have hflag := List.find?_some hfind
    simp [h token (List.mem_of_find?_eq_some hfind)] at hflag

theorem Instruction.result_accept_eq_ok_iff {x : Except Defect α} {a : α} :
    s.result (i.accept x) = .ok a ↔ x = .ok a := by
  cases x with
  | ok b => simp [accept]
  | error defect => simp [accept]

namespace Check

/-- The instruction is accepted as the check. -/
structure Accepted (s : Surroundings) (i : Instruction) (c : Check) : Prop where
  kind_eq : i.kind = kind
  others : ∀ token ∈ i.positional.drop 1, token = independentKey
  known : ∀ (f : Field) (q : Question), f.question? i = some q → s.knows q = true
  said : said i = .ok c

theorem exists_accepted_iff :
    (∃ c, Accepted s i c) ↔ i.kind = kind ∧
      (∀ token ∈ i.positional.drop 1, token = independentKey) ∧ ∀ f : Field, f.Vetted s i := by
  constructor
  · rintro ⟨c, h⟩
    refine ⟨h.kind_eq, h.others, fun f => ⟨?_, h.known f⟩⟩
    obtain ⟨p, hp, -⟩ := forField_of_said h.said f
    exact ⟨p, hp⟩
  · rintro ⟨hkind, hothers, hvetted⟩
    obtain ⟨c, hc⟩ := exists_said fun f => (hvetted f).meaning
    exact ⟨c, hkind, hothers, fun f => (hvetted f).known, hc⟩

theorem result_compile_eq_ok_iff {c : Check} :
    s.result (compile i) = .ok c ↔ Accepted s i c := by
  rw [compile_eq]
  by_cases hkind : i.kind = kind
  · rw [if_pos hkind, result_bind_of_ok (i.result_warnOthers s knownKeys)]
    simp only [result_bind_eq_ok_iff, i.result_accept_eq_ok_iff]
    constructor
    · rintro ⟨⟨⟩, hothers, ⟨⟩, hvet, hsaid⟩
      refine ⟨hkind, ?_, fun f => (Instruction.result_vetAll_eq_ok_iff.mp hvet f).known, hsaid⟩
      simpa using Instruction.result_rejectOthers_eq_ok_iff.mp hothers
    · rintro ⟨-, hothers, hknown, hsaid⟩
      refine ⟨(), Instruction.result_rejectOthers_eq_ok_iff.mpr (by simpa using hothers), (),
        Instruction.result_vetAll_eq_ok_iff.mpr fun f => ⟨?_, hknown f⟩, hsaid⟩
      obtain ⟨p, hp, -⟩ := forField_of_said hsaid f
      exact ⟨p, hp⟩
  · rw [if_neg hkind]
    exact iff_of_false nofun fun h => hkind h.kind_eq

/-- **What is accepted, and as which check.** -/
theorem result_build_eq_ok_iff {c : Check} : s.result (build i) = .ok c ↔ Accepted s i c := by
  unfold build
  rw [result_bind_eq_ok_iff]
  constructor
  · rintro ⟨c', hc', hdone⟩
    rw [result_bind_of_ok (s.result_note _), pure_eq, result_done] at hdone
    cases hdone
    exact result_compile_eq_ok_iff.mp hc'
  · intro h
    refine ⟨c, result_compile_eq_ok_iff.mpr h, ?_⟩
    rw [result_bind_of_ok (s.result_note _), pure_eq, result_done]

theorem result_build_of_vetAll_error {fault : Fault} (hkind : i.kind = kind)
    (hothers : ∀ token ∈ i.positional.drop 1, token = independentKey)
    (h : s.result i.vetAll = .error fault) : s.result (build i) = .error fault := by
  have hwarn := i.result_warnOthers s knownKeys
  have hreject : s.result (i.rejectOthers 1 [independentKey]) = .ok () :=
    Instruction.result_rejectOthers_eq_ok_iff.mpr (by simpa using hothers)
  unfold build
  rw [compile_eq, if_pos hkind]
  refine result_bind_of_error ?_ _
  rw [result_bind_of_ok hwarn, result_bind_of_ok hreject, result_bind_of_error h]

end Check

end QuestCheck
