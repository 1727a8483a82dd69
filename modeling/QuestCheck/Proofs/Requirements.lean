import QuestCheck.Proofs.Acceptance
import QuestCheck.Proofs.Literals
import QuestCheck.Proofs.Segments

/-!
# Requirements of a check

An instruction has to meet seven requirements to say a check: it is of the right kind, its tokens
behind the condition are flags, and each of the five fields is what it has to be. It is rejected for
the first requirement that it does not meet.

* `Requirement`, in the order `Requirement.all`; `Requirement.Met`, what each of them asks for;
* `Requirement.defect?`, what is wrong with an instruction that does not meet it;
* `Field.read_of_reference`: a text that refers to a variable is no value of any field;
* `defect?_eq_none_iff`: a requirement is met if nothing is wrong;
* `compile_eq_demands`, `result_compile_eq_error_iff`: loading demands one after another;
* `Defect.IsOfCheck`: the defects that are wrong with a check, and not with a line of a suite;
* **`compile_meets_all_or_reports_first`**: both together.
-/

namespace QuestCheck

open Procedure Surroundings

variable {s : Surroundings} {i : Instruction}

/-- What an instruction has to be in order to say a check. -/
inductive Requirement where
  | kind
  | tokens
  | field (f : Field)
  deriving DecidableEq, Repr

/-- The text is the name of a variable that is known, between two percent signs. -/
def Surroundings.KnowsReference (s : Surroundings) (text : String) : Prop :=
  ∃ name, text = "%" ++ name ++ "%" ∧ Text.isName name = true ∧ s.vars.knows name = true

/-- What is wrong with a condition that has been read: it has to be known. -/
def Field.unknown? (s : Surroundings) : (f : Field) → f.Value → Option Defect
  | condition, name => if s.conditions.knows name then none else some (.unknownCondition name)
  | expected, _ | independent, _ | failure, _ | success, _ => none

/-- What is wrong with the text of a field. -/
def Field.textDefect? (s : Surroundings) (f : Field) (text : String) : Option Defect :=
  match reference? text with
  | some name => if s.vars.knows name then none else some (.unknownVariable f.key name)
  | none =>
    match f.read text with
    | .error cause => some (.misreadField f.key cause)
    | .ok value => f.unknown? s value

/-- What is wrong with a field: only the condition has to be written. -/
def Field.defect? (s : Surroundings) (i : Instruction) (f : Field) : Option Defect :=
  match f.text? i with
  | none => if f = condition then some (.missingField f.key) else none
  | some text => f.textDefect? s text

namespace Requirement

/-- All requirements, in the order in which they are demanded. -/
def all : List Requirement :=
  [kind, tokens, field .condition, field .expected, field .independent, field .failure,
    field .success]

/-- The instruction meets the requirement. -/
def Met (s : Surroundings) (i : Instruction) : Requirement → Prop
  | kind => i.kind = "test"
  | tokens => ∀ token ∈ i.positional.drop 1, token = "independent"
  | field .condition => ∃ text, i.positional? 0 = some text ∧
      (s.KnowsReference text ∨
        ∃ name, QualifiedName.parse text = .ok name ∧ s.conditions.knows name = true)
  | field .expected => ∀ text, i.named? "expected" = some text →
      s.KnowsReference text ∨ Text.trimmed text = "true" ∨ Text.trimmed text = "false"
  | field .independent => ∀ text, i.named? "independent" = some text →
      s.KnowsReference text ∨ Text.trimmed text = "true" ∨ Text.trimmed text = "false"
  | field .failure => ∀ text, i.named? "fail" = some text →
      s.KnowsReference text ∨ ∃ t : Template, text = t.raw ∧ t.holes ≤ 4
  | field .success => ∀ text, i.named? "success" = some text →
      s.KnowsReference text ∨ ∃ t : Template, text = t.raw ∧ t.holes ≤ 2

/-- What is wrong with an instruction that does not meet the requirement. -/
def defect? (s : Surroundings) (i : Instruction) : Requirement → Option Defect
  | kind => if i.kind = Check.kind then none else some (.wrongKind Check.kind i.kind)
  | tokens => ((i.positional.drop 1).find? (· ≠ Check.independentKey)).map .unexpectedToken
  | field f => f.defect? s i

end Requirement

/-! ## References are no values -/

theorem Surroundings.knowsReference_iff {text : String} :
    s.KnowsReference text ↔ ∃ name, reference? text = some name ∧ s.vars.knows name = true := by
  simp only [KnowsReference, reference?_eq_some_iff, and_assoc]

theorem Truth.exists_parse_iff {text : String} :
    (∃ b, parse text = .ok b) ↔ Text.trimmed text = "true" ∨ Text.trimmed text = "false" := by
  unfold parse
  by_cases htrue : Text.trimmed text = "true"
  · exact iff_of_true ⟨true, if_pos htrue⟩ (.inl htrue)
  by_cases hfalse : Text.trimmed text = "false"
  · exact iff_of_true ⟨false, (if_neg htrue).trans (if_pos hfalse)⟩ (.inr hfalse)
  · simp [Truth.text, htrue, hfalse]

theorem Field.reading (f : Field) : FieldReading f.read := by
  cases f with
  | condition => exact .condition
  | expected | independent => exact .truth
  | failure | success => exact .message _

/-- **A text that refers to a variable is no value of any field.** -/
theorem Field.read_of_reference (f : Field) {text name : String} (h : reference? text = some name)
    (value : f.Value) : f.read text ≠ .ok value := by
  obtain ⟨cause, hcause⟩ := f.reading.error_of_reference h
  rw [hcause]
  nofun

/-! ## Defects -/

theorem Field.textDefect?_eq_none_iff {f : Field} {text : String} :
    f.textDefect? s text = none ↔
      s.KnowsReference text ∨ ∃ value, f.read text = .ok value ∧ f.unknown? s value = none := by
  rw [knowsReference_iff]
  unfold textDefect?
  cases href : reference? text with
  | some name =>
    have hread : ¬ ∃ value, f.read text = .ok value ∧ f.unknown? s value = none :=
      fun ⟨value, hvalue, _⟩ => f.read_of_reference href value hvalue
    simp [hread]
  | none =>
    cases f.read text <;> simp

theorem Field.defect?_eq_none_iff_of_ne {f : Field} (hf : f ≠ condition) :
    f.defect? s i = none ↔
      ∀ text, i.named? f.key = some text → s.KnowsReference text ∨
        ∃ value, f.read text = .ok value ∧ f.unknown? s value = none := by
  have htext : f.text? i = i.named? f.key := if_neg hf
  unfold defect?
  rw [htext]
  cases hnamed : i.named? f.key with
  | none => simp [hf]
  | some text => simp [textDefect?_eq_none_iff]

theorem Field.condition_defect?_eq_none_iff :
    Field.condition.defect? s i = none ↔
      ∃ text, i.positional? 0 = some text ∧ (s.KnowsReference text ∨
        ∃ name, QualifiedName.parse text = .ok name ∧ s.conditions.knows name = true) := by
  have htext : Field.condition.text? i = i.positional? 0 := if_pos rfl
  unfold defect?
  rw [htext]
  cases hfirst : i.positional? 0 with
  | none => simp
  | some text => simp [textDefect?_eq_none_iff, read, unknown?]

theorem Template.exists_parse_iff {arity : Nat} {text : String} :
    (∃ t, parse arity text = .ok t) ↔ ∃ t : Template, text = t.raw ∧ t.holes ≤ arity := by
  simp only [parse_eq_ok_iff]

/-- **A requirement is met if nothing is wrong.** -/
theorem Requirement.defect?_eq_none_iff (r : Requirement) :
    r.defect? s i = none ↔ r.Met s i := by
  have htruth : ∀ (f : Field) (hf : f = .expected ∨ f = .independent) (text : String),
      (∃ value, f.read text = .ok value ∧ f.unknown? s value = none) ↔
        Text.trimmed text = "true" ∨ Text.trimmed text = "false" := by
    rintro f (rfl | rfl) text <;>
    simpa [Field.read, Field.unknown?] using @Truth.exists_parse_iff text
  cases r with
  | kind =>
    show (if i.kind = Check.kind then none else _) = none ↔ i.kind = Check.kind
    split_ifs with h <;> simp [h]
  | tokens =>
    show ((i.positional.drop 1).find? _).map _ = none ↔ ∀ token ∈ i.positional.drop 1,
      token = Check.independentKey
    simp
  | field f =>
    cases f with
    | condition => exact Field.condition_defect?_eq_none_iff
    | expected =>
      refine (Field.defect?_eq_none_iff_of_ne Field.noConfusion).trans ?_
      simp only [htruth .expected (.inl rfl)]
      rfl
    | independent =>
      refine (Field.defect?_eq_none_iff_of_ne Field.noConfusion).trans ?_
      simp only [htruth .independent (.inr rfl)]
      rfl
    | failure =>
      refine (Field.defect?_eq_none_iff_of_ne Field.noConfusion).trans ?_
      simp only [Field.read, Field.unknown?, and_true, Template.exists_parse_iff]
      rfl
    | success =>
      refine (Field.defect?_eq_none_iff_of_ne Field.noConfusion).trans ?_
      simp only [Field.read, Field.unknown?, and_true, Template.exists_parse_iff]
      rfl

/-! ## Demands -/

/-- What a loop comes to whose turns each fail for their own fault, if there is one. -/
theorem Surroundings.result_forM_eq {α : Type} {f : α → Procedure Unit} {fault? : α → Option Fault}
    (h : ∀ x, s.result (f x) = (fault? x).elim (.ok ()) .error) (xs : List α) :
    s.result (xs.forM f) = (xs.findSome? fault?).elim (.ok ()) .error := by
  induction xs with
  | nil => rfl
  | cons x xs ih =>
    have hx := h x
    rw [forM_cons, List.findSome?_cons]
    cases hfault : fault? x with
    | none =>
      rw [hfault] at hx
      rw [result_bind_of_ok hx, ih]
    | some fault =>
      rw [hfault] at hx
      exact result_bind_of_error hx _

/-- The fault of an instruction with a defect. -/
def Instruction.fault (i : Instruction) (defect : Defect) : Fault :=
  Rejection.fault ⟨i.id.display, defect⟩

theorem Field.result_vet (f : Field) :
    s.result (f.vet i) = ((f.defect? s i).map i.fault).elim (.ok ()) .error := by
  unfold vet defect?
  cases htext : f.text? i with
  | none =>
    -- a field that is not written is fixed, and only the condition has to be written
    cases f <;> simp [parameter, question?, htext, unwritten?, Instruction.fault]
  | some text =>
    cases href : reference? text with
    | some name =>
      simp only [parameter, question?, textDefect?, htext, href]
      rw [result_bind_of_ok (s.result_ask_question _)]
      show s.result (if s.vars.knows name = true then _ else _) = _
      split_ifs <;> rfl
    | none =>
      cases hread : f.read text with
      | error cause =>
        simp only [parameter, textDefect?, htext, href, hread]
        rfl
      | ok value =>
        by_cases hf : f = condition
        · subst hf
          have hparse : QualifiedName.parse text = .ok value := hread
          simp only [parameter, question?, textDefect?, htext, href, hread, hparse, if_true,
            Except.toOption, Option.map_some]
          rw [result_bind_of_ok (s.result_ask_question _)]
          show s.result (if s.conditions.knows value = true then _ else _) =
            (Option.map i.fault (if s.conditions.knows value = true then _ else _)).elim _ _
          split_ifs <;> rfl
        · have hknown : f.unknown? s value = none := by
            cases f <;> first | rfl | exact absurd rfl hf
          simp only [parameter, question?, textDefect?, htext, href, hread, if_neg hf, hknown]
          rfl

namespace Requirement

/-- A requirement is demanded of an instruction; fields that are not known are warned of when the
tokens are. -/
def demand (i : Instruction) : Requirement → Procedure Unit
  | kind => if i.kind = Check.kind then .done () else i.reject (.wrongKind Check.kind i.kind)
  | tokens => do
    i.warnOthers Check.knownKeys
    i.rejectOthers 1 [Check.independentKey]
  | field f => f.vet i

theorem result_demand (r : Requirement) :
    s.result (r.demand i) = ((r.defect? s i).map i.fault).elim (.ok ()) .error := by
  cases r with
  | kind =>
    unfold demand defect?
    by_cases hkind : i.kind = Check.kind
    · rw [if_pos hkind, if_pos hkind]
      rfl
    · rw [if_neg hkind, if_neg hkind]
      rfl
  | tokens =>
    unfold demand defect?
    rw [result_bind_of_ok (i.result_warnOthers s Check.knownKeys)]
    unfold Instruction.rejectOthers
    simp only [List.mem_singleton]
    cases (i.positional.drop 1).find? (· ≠ Check.independentKey) <;> rfl
  | field f => exact f.result_vet

end Requirement

/-- **Loading demands one requirement after another**, and then has the check. -/
theorem Check.compile_eq_demands (i : Instruction) :
    compile i = (do
      Requirement.all.forM (Requirement.demand i)
      i.accept (said i)) := by
  rw [compile_eq]
  have hall : Requirement.all.forM (Requirement.demand i) = (do
      Requirement.kind.demand i
      Requirement.tokens.demand i
      i.vetAll) := by
    unfold Instruction.vetAll
    simp only [Requirement.all, Field.all, forM_cons]
    rfl
  rw [hall]
  unfold Requirement.demand
  split_ifs
  · simp only [bind_assoc, done_bind]
  · simp only [Instruction.reject_bind]

theorem Requirement.result_demandAll :
    s.result (all.forM (demand i)) =
      ((all.findSome? (defect? s i)).map i.fault).elim (.ok ()) .error := by
  rw [result_forM_eq result_demand, List.map_findSome?]
  rfl

theorem Check.exists_said_of_demands
    (h : s.result (Requirement.all.forM (Requirement.demand i)) = .ok ()) :
    ∃ c, said i = .ok c := by
  refine exists_said fun f => ?_
  have hfield : Requirement.field f ∈ Requirement.all := by
    cases f <;> decide
  exact (Field.result_vet_eq_ok_iff.mp (result_forM_eq_ok_iff.mp h _ hfield)).meaning

/-- **An instruction is rejected for the first defect** among those of the requirements. -/
theorem Check.result_compile_eq_error_iff {fault : Fault} :
    s.result (compile i) = .error fault ↔
      ∃ defect, Requirement.all.findSome? (Requirement.defect? s i) = some defect ∧
        fault = i.fault defect := by
  have hdemands := Requirement.result_demandAll (s := s) (i := i)
  rw [compile_eq_demands]
  cases hdefect : Requirement.all.findSome? (Requirement.defect? s i) with
  | none =>
    rw [hdefect] at hdemands
    obtain ⟨c, hc⟩ := exists_said_of_demands hdemands
    rw [result_bind_of_ok hdemands, hc]
    exact iff_of_false nofun nofun
  | some defect =>
    rw [hdefect] at hdemands
    rw [result_bind_of_error hdemands]
    simp [eq_comm]

theorem Check.result_build_eq_error_iff {fault : Fault} :
    s.result (build i) = .error fault ↔ s.result (compile i) = .error fault := by
  unfold build
  rw [result_bind_eq_error_iff]
  constructor
  · rintro (h | ⟨c, -, h⟩)
    · exact h
    · cases h
  · exact .inl

theorem Check.exists_result_compile_iff :
    (∃ c, s.result (compile i) = .ok c) ↔ ∀ r : Requirement, r.Met s i := by
  have hall : ∀ r : Requirement, r ∈ Requirement.all := by
    rintro (_ | _ | f)
    · decide
    · decide
    · cases f <;> decide
  have hmet : (∀ r : Requirement, r.Met s i) ↔
      Requirement.all.findSome? (Requirement.defect? s i) = none := by
    rw [List.findSome?_eq_none_iff]
    exact ⟨fun h r _ => r.defect?_eq_none_iff.mpr (h r),
      fun h r => r.defect?_eq_none_iff.mp (h r (hall r))⟩
  rw [hmet]
  cases hresult : s.result (compile i) with
  | error fault =>
    obtain ⟨defect, hdefect, -⟩ := result_compile_eq_error_iff.mp hresult
    simp [hdefect]
  | ok c =>
    refine iff_of_true ⟨c, rfl⟩ ?_
    cases hdefect : Requirement.all.findSome? (Requirement.defect? s i) with
    | none => rfl
    | some defect =>
      cases hresult.symm.trans (result_compile_eq_error_iff.mpr ⟨defect, hdefect, rfl⟩)

/-! ## Defects of checks -/

/-- The defect is one of a check, and not of the written form of an instruction or of a line. -/
def Defect.IsOfCheck : Defect → Prop
  | wrongKind .. | missingField _ | unexpectedToken _ | misreadField .. | unknownVariable ..
  | unknownCondition _ => True
  | _ => False

theorem Field.isOfCheck_of_defect? {f : Field} {defect : Defect}
    (h : f.defect? s i = some defect) : defect.IsOfCheck := by
  unfold defect? textDefect? unknown? at h
  split at h
  · split_ifs at h
    cases h
    trivial
  · split at h
    · split_ifs at h
      cases h
      trivial
    · split at h
      · cases h
        trivial
      · split at h
        · split_ifs at h
          cases h
          trivial
        all_goals cases h

theorem Requirement.isOfCheck_of_defect? {r : Requirement} {defect : Defect}
    (h : r.defect? s i = some defect) : defect.IsOfCheck := by
  cases r with
  | kind =>
    unfold defect? at h
    split_ifs at h
    cases h
    trivial
  | tokens =>
    obtain ⟨token, -, rfl⟩ := Option.map_eq_some_iff.mp h
    trivial
  | field f => exact Field.isOfCheck_of_defect? h

theorem Defect.IsOfCheck.message_ne_repeated {defect : Defect} (h : defect.IsOfCheck)
    (number : Nat) : defect.message ≠ (Defect.repeatedLineName number).message := by
  have hstart : ∃ x ≠ 'I', defect.message.toList.head? = some x := by
    cases defect with
    | wrongKind asked kind =>
      exact ⟨'E', by decide, head?_append (head?_append (head?_append (head?_append rfl)))⟩
    | missingField field => exact ⟨'M', by decide, head?_append (head?_append rfl)⟩
    | unexpectedToken token => exact ⟨'U', by decide, head?_append (head?_append rfl)⟩
    | misreadField field cause =>
      exact ⟨'F', by decide, head?_append (head?_append (head?_append rfl))⟩
    | unknownVariable field name =>
      exact ⟨'F', by decide, head?_append (head?_append (head?_append (head?_append rfl)))⟩
    | unknownCondition condition => exact ⟨'U', by decide, head?_append (head?_append rfl)⟩
    | _ => cases h
  have hrepeated : (Defect.repeatedLineName number).message.toList.head? = some 'I' :=
    head?_append (head?_append rfl)
  obtain ⟨x, hx, hmessage⟩ := hstart
  refine ne_of_head? hmessage ?_
  rw [hrepeated]
  simpa using hx.symm

/-- **What is accepted, and for what the rest is rejected**: an instruction is compiled exactly if
it meets all requirements, and else rejected for the first that it does not meet. -/
theorem Check.compile_meets_all_or_reports_first (s : Surroundings) (i : Instruction) (log : Log) :
    let o := s.run (compile i) log
    ((∃ c, o.result = .ok c) ↔ ∀ r : Requirement, r.Met s i) ∧
      (∀ fault, o.result = .error fault ↔
        ∃ before r after defect, Requirement.all = before ++ r :: after ∧
          (∀ q ∈ before, q.Met s i) ∧ r.defect? s i = some defect ∧
          fault = Rejection.fault ⟨i.id.display, defect⟩) ∧
      ∀ r : Requirement, r.defect? s i = none ↔ r.Met s i := by
  intro o
  have hresult : o.result = s.result (compile i) := s.result_run _ log
  simp only [hresult]
  refine ⟨exists_result_compile_iff, fun fault => ?_, fun r => r.defect?_eq_none_iff⟩
  simp only [result_compile_eq_error_iff, List.findSome?_eq_some_iff,
    Requirement.defect?_eq_none_iff]
  constructor
  · rintro ⟨defect, ⟨before, r, after, hall, hr, hbefore⟩, hfault⟩
    exact ⟨before, r, after, defect, hall, hbefore, hr, hfault⟩
  · rintro ⟨before, r, after, defect, hall, hbefore, hr, hfault⟩
    exact ⟨defect, ⟨before, r, after, hall, hr, hbefore⟩, hfault⟩

end QuestCheck
