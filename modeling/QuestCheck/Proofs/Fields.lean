import QuestCheck.Proofs.Meaning

/-!
# The fields of a check

A check has five fields, which are loaded alike: the text of a field is either a reference, whose
variable has to be known, or it is read at once; and a condition that is read at once has to be
known. So what a field means hangs on its text alone, and what is known decides only whether the
check is accepted.

* `Field`, its `key`, its `text?` in an instruction, and `Refers`, the variable it refers to;
* `Field.parameter`: what a field means, or what is wrong with it;
* `Question`, and `Field.question?`, what has to be known for a field;
* `Field.vet`, `vetAll`: the fields checked one after another;
* `Check.said`: the check that an instruction says;
* **`compile_eq`**: loading checks all fields, and then has the check that the instruction says;
* `Check.eq_of_said`; `forField`, `forField_of_said`: a field of a check in a run;
* `Check.run_of_parts`: what the parts of a run have, the run has.
-/

namespace QuestCheck

theorem bind_eq_ok_iff {ε α β : Type} {x : Except ε α} {f : α → Except ε β} {b : β} :
    (x >>= f) = .ok b ↔ ∃ a, x = .ok a ∧ f a = .ok b := by
  cases x with
  | error e => simp [bind, Except.bind]
  | ok a => simp [bind, Except.bind]

open Procedure

/-- The value that a run looks up for a text that refers to a variable. -/
def Instruction.lookUp {α : Type} (i : Instruction) (field : String) (read : Reading α)
    (name : String) (actor : Option Actor) : Procedure α := do
  match read (← Procedure.resolve actor name) with
  | .ok value => return value
  | .error cause => .fail (.unusable (i.id.display ++ "." ++ field) cause.message)

/-- The fields of a check. -/
inductive Field where
  | condition
  | expected
  | independent
  | failure
  | success
  deriving DecidableEq, Repr

/-- A question of loading. -/
inductive Question where
  /-- Is the condition known? -/
  | condition (name : QualifiedName)
  /-- Is the variable known? -/
  | reference (name : String)
  deriving DecidableEq, Repr

namespace Question

def ask : Question → Procedure Bool
  | condition name => knowsCondition name
  | reference name => knowsVariable name

def exchange : Question → Bool → Exchange
  | condition name, known => ⟨.knowsCondition name, known⟩
  | reference name, known => ⟨.knowsVariable name, known⟩

theorem course_ask_iff {q : Question} {es : List Exchange} {result : Except Fault Bool} :
    q.ask.Course es result ↔ ∃ known, es = [q.exchange known] ∧ result = .ok known := by
  cases q with
  | condition name => exact course_single_iff
  | reference name => exact course_single_iff

end Question

namespace Field

/-- All fields, in the order in which they are loaded. -/
def all : List Field := [.condition, .expected, .independent, .failure, .success]

theorem mem_all (f : Field) : f ∈ all := by
  cases f <;> decide

def key : Field → String
  | condition => "condition"
  | expected => "expected"
  | independent => Check.independentKey
  | failure => "fail"
  | success => "success"

theorem key_mem_knownKeys {f : Field} (hf : f ≠ condition) : f.key ∈ Check.knownKeys := by
  cases f with
  | condition => exact absurd rfl hf
  | _ => decide

@[reducible] def Value : Field → Type
  | condition => QualifiedName
  | expected | independent => Bool
  | failure | success => Template

def read : (f : Field) → Reading f.Value
  | condition => QualifiedName.parse
  | expected | independent => Truth.parse
  | failure => Template.parse Check.failureArity
  | success => Template.parse Check.successArity

/-- The text of a field: the condition is the first positional field, all others are named. -/
def text? (i : Instruction) (f : Field) : Option String :=
  if f = condition then i.positional? 0 else i.named? f.key

/-- The value of a field without a text, which a condition does not have. -/
def unwritten? (i : Instruction) : (f : Field) → Option f.Value
  | condition => none
  | expected => some Check.expectedByDefault
  | independent => some (decide (Check.independentKey ∈ i.positional.drop 1))
  | failure => some Check.failureByDefault
  | success => some Check.successByDefault

/-- The field refers to the variable. -/
def Refers (i : Instruction) (f : Field) (name : String) : Prop :=
  ∃ text, f.text? i = some text ∧ reference? text = some name

/-- What a field means, or what is wrong with it whatever is known. -/
def parameter (i : Instruction) (f : Field) : Except Defect (Parameter f.Value) :=
  match f.text? i with
  | none =>
    match f.unwritten? i with
    | some value => .ok (.fixed value)
    | none => .error (.missingField f.key)
  | some text =>
    match reference? text with
    | some name => .ok (.computed (i.lookUp f.key f.read name))
    | none =>
      match f.read text with
      | .ok value => .ok (.fixed value)
      | .error cause => .error (.misreadField f.key cause)

/-- What has to be known for a field: the variable that it refers to, or else the condition. -/
def question? (i : Instruction) (f : Field) : Option Question :=
  match f.text? i with
  | none => none
  | some text =>
    match reference? text with
    | some name => some (.reference name)
    | none => if f = condition then (QualifiedName.parse text).toOption.map .condition else none

/-- What is wrong where the answer is no. -/
def unknown (f : Field) : Question → Defect
  | .condition name => .unknownCondition name
  | .reference name => .unknownVariable f.key name

/-- The field is checked: it has to mean something, and what it asks for has to be known. -/
def vet (i : Instruction) (f : Field) : Procedure Unit :=
  match f.parameter i with
  | .error defect => i.reject defect
  | .ok _ =>
    match f.question? i with
    | none => .done ()
    | some question => do
      unless ← question.ask do
        i.reject (f.unknown question)

theorem parameter_eq_ok {i : Instruction} {f : Field} {p : Parameter f.Value}
    (h : f.parameter i = .ok p) :
    (∃ value, p = .fixed value) ∨
      ∃ name, f.Refers i name ∧ f.question? i = some (.reference name) ∧
        p = .computed (i.lookUp f.key f.read name) := by
  unfold Field.parameter at h
  unfold Field.Refers Field.question?
  cases htext : f.text? i with
  | none =>
    cases hvalue : f.unwritten? i with
    | none => simp [htext, hvalue] at h
    | some value =>
      simp only [htext, hvalue, Except.ok.injEq] at h
      exact .inl ⟨value, h.symm⟩
  | some text =>
    cases href : reference? text with
    | some name =>
      simp only [htext, href, Except.ok.injEq] at h
      exact .inr ⟨name, ⟨text, rfl, href⟩, by simp only [href], h.symm⟩
    | none =>
      cases hread : f.read text with
      | error cause => simp [htext, href, hread] at h
      | ok value =>
        simp only [htext, href, hread, Except.ok.injEq] at h
        exact .inl ⟨value, h.symm⟩

theorem question_of_fixed {i : Instruction} {condition : QualifiedName}
    (h : Field.condition.parameter i = .ok (.fixed condition)) :
    Field.condition.question? i = some (.condition condition) := by
  unfold Field.parameter at h
  unfold Field.question?
  cases htext : Field.condition.text? i with
  | none => simp [htext, Field.unwritten?] at h
  | some text =>
    cases href : reference? text with
    | some name => simp [htext, href] at h
    | none =>
      cases hread : QualifiedName.parse text with
      | error cause => simp [htext, href, Field.read, hread] at h
      | ok name =>
        simp only [htext, href, Field.read, hread, Except.ok.injEq, Parameter.fixed.injEq] at h
        subst h
        simp [href, hread, Except.toOption]

end Field

namespace Instruction

variable {α β : Type}

/-- The value, or the rejection for a defect. -/
def accept (i : Instruction) : Except Defect α → Procedure α
  | .ok a => .done a
  | .error defect => i.reject defect

@[simp] theorem reject_bind (i : Instruction) (defect : Defect) (f : α → Procedure β) :
    i.reject defect >>= f = i.reject defect := rfl

/-- All fields are checked, in their order. -/
def vetAll (i : Instruction) : Procedure Unit := Field.all.forM (Field.vet i)

/-! ## Fields are loaded alike -/

/-- A field is loaded: it is checked, and then has its meaning. -/
def load (i : Instruction) (f : Field) : Procedure (Parameter f.Value) := do
  f.vet i
  i.accept (f.parameter i)

theorem load_eq_of_unwritten {i : Instruction} {f : Field} {value : f.Value}
    (htext : f.text? i = none) (hvalue : f.unwritten? i = some value) :
    i.load f = .done (.fixed value) := by
  simp only [load, Field.vet, Field.parameter, Field.question?, htext, hvalue, accept, done_bind]

theorem load_eq_of_reference {i : Instruction} {f : Field} {text name : String}
    (htext : f.text? i = some text) (href : reference? text = some name) :
    i.load f = (do
      if ← knowsVariable name then return .computed (i.lookUp f.key f.read name)
      else i.reject (.unknownVariable f.key name)) := by
  simp only [load, Field.vet, Field.parameter, Field.question?, htext, href, accept, bind_assoc]
  congr 1
  funext known
  cases known <;> rfl

theorem load_eq_of_error {i : Instruction} {f : Field} {text : String} {cause : Misreading}
    (htext : f.text? i = some text) (href : reference? text = none)
    (hread : f.read text = .error cause) : i.load f = i.reject (.misreadField f.key cause) := by
  simp only [load, Field.vet, Field.parameter, htext, href, hread, reject_bind]

theorem named_eq {i : Instruction} {f : Field} (hf : f ≠ .condition) {missing : f.Value}
    (hmissing : f.unwritten? i = some missing) :
    i.namedParameter f.key missing f.read = i.load f := by
  have htext : f.text? i = i.named? f.key := if_neg hf
  unfold namedParameter
  cases hfield : i.named? f.key with
  | none => exact (load_eq_of_unwritten (htext.trans hfield) hmissing).symm
  | some text =>
    rw [hfield] at htext
    unfold parameter
    cases href : reference? text with
    | some name =>
      simp only [href]
      exact (load_eq_of_reference htext href).symm
    | none =>
      cases hread : f.read text with
      | error cause =>
        simp only [href, hread]
        exact (load_eq_of_error htext href hread).symm
      | ok value =>
        simp only [href, hread, load, Field.vet, Field.parameter, Field.question?, htext, if_neg hf,
          accept, done_bind]

theorem condition_eq (i : Instruction) :
    (do
      let condition ← i.positionalParameter 0 "condition" QualifiedName.parse
      Check.requireKnown i condition
      return condition) = i.load .condition := by
  have htext : Field.condition.text? i = i.positional? 0 := if_pos rfl
  unfold positionalParameter
  cases hfield : i.positional? 0 with
  | none =>
    rw [hfield] at htext
    simp only [load, Field.vet, Field.parameter, htext]
    rfl
  | some text =>
    rw [hfield] at htext
    unfold parameter
    cases href : reference? text with
    | some name =>
      rw [load_eq_of_reference htext href]
      simp only [href, bind_assoc]
      congr 1
      funext known
      cases known <;> rfl
    | none =>
      cases hread : QualifiedName.parse text with
      | error cause =>
        simp only [href, hread]
        exact (load_eq_of_error htext href hread).symm
      | ok name =>
        simp only [href, hread, load, Field.vet, Field.parameter, Field.question?, htext,
          Field.read, if_true, Except.toOption, Option.map_some, accept, done_bind, bind_assoc]
        rfl

theorem load_bind {i : Instruction} {f : Field} {next : Parameter f.Value → Procedure β}
    {rest : Procedure β} (h : ∀ p, f.parameter i = .ok p → next p = rest) :
    i.load f >>= next = (do f.vet i; rest) := by
  cases hp : f.parameter i with
  | error defect =>
    have hvet : f.vet i = i.reject defect := by simp only [Field.vet, hp]
    rw [load, hvet]
    rfl
  | ok p =>
    rw [← h p hp, load, hp, bind_assoc]
    rfl

/-- The independence is declared where its flag is written, bare or with a text. -/
def independence (i : Instruction) (p : Parameter Bool) : OptionalParameter Bool where
  declared := if i.flag Check.independentKey = .absent then none else some p
  fallback := Check.unflaggedIndependent

theorem flag_eq (i : Instruction) :
    i.flagParameter Check.independentKey Check.flaggedIndependent Check.unflaggedIndependent
        Truth.parse = (do return i.independence (← i.load .independent)) := by
  have hnamed := named_eq (i := i) (f := .independent) Field.noConfusion rfl
  rw [← hnamed]
  unfold flagParameter namedParameter independence flag
  cases hfield : i.named? Check.independentKey with
  | some text => simp [Field.key, hfield, Field.read]
  | none =>
    by_cases hbare : Check.independentKey ∈ i.positional.drop 1
    · simp only [Field.key, hfield, if_pos hbare, decide_eq_true hbare]
      rfl
    · simp only [Field.key, hfield, if_neg hbare]
      rfl

end Instruction

namespace Check

/-- The check that an instruction says, or what is wrong with it whatever is known. -/
def said (i : Instruction) : Except Defect Check := do
  let condition ← Field.condition.parameter i
  let expected ← Field.expected.parameter i
  let independent ← Field.independent.parameter i
  let failure ← Field.failure.parameter i
  let success ← Field.success.parameter i
  return { id := i.id, condition, expected, independent := i.independence independent, failure,
           success, skip := skipMessage }

/-- **Loading checks all fields, and then has the check that the instruction says.** -/
theorem compile_eq (i : Instruction) :
    compile i =
      if i.kind = kind then do
        i.warnOthers knownKeys
        i.rejectOthers 1 [independentKey]
        i.vetAll
        i.accept (said i)
      else i.reject (.wrongKind kind i.kind) := by
  have hcondition : ∀ k : Parameter QualifiedName → Procedure Check,
      (do
        let condition ← i.positionalParameter 0 "condition" QualifiedName.parse
        requireKnown i condition
        k condition) = i.load .condition >>= k := by
    intro k
    rw [← i.condition_eq, bind_assoc]
    simp only [bind_assoc, pure_bind]
  have hexpected : i.namedParameter "expected" expectedByDefault Truth.parse = i.load .expected :=
    Instruction.named_eq (f := .expected) Field.noConfusion rfl
  have hfailure : i.namedParameter "fail" failureByDefault (Template.parse failureArity) =
      i.load .failure := Instruction.named_eq (f := .failure) Field.noConfusion rfl
  have hsuccess : i.namedParameter "success" successByDefault (Template.parse successArity) =
      i.load .success := Instruction.named_eq (f := .success) Field.noConfusion rfl
  unfold compile
  simp only [hcondition, hexpected, i.flag_eq, hfailure, hsuccess]
  congr 1
  -- up to the first field that means nothing, both sides check the same fields
  unfold Instruction.vetAll said
  simp only [Field.all, List.forM_eq_forM, List.forM_cons, List.forM_nil, bind_assoc, pure_bind]
  refine bind_congr fun _ => bind_congr fun _ => ?_
  refine Instruction.load_bind fun condition hcondition => ?_
  refine Instruction.load_bind fun expected hexpected => ?_
  refine Instruction.load_bind fun independent hindependent => ?_
  refine Instruction.load_bind fun failure hfailure => ?_
  refine Instruction.load_bind fun success hsuccess => ?_
  rw [hcondition, hexpected, hindependent, hfailure, hsuccess]
  rfl

/-! ## Fields in a run -/

/-- The value of a field of a check in a run. -/
def forField (c : Check) : (f : Field) → Option Actor → Procedure f.Value
  | .condition => c.condition.forRun
  | .expected => c.expected.forRun
  | .independent => c.independent.forRun
  | .failure => c.failure.forRun
  | .success => c.success.forRun

theorem forRun_independence {i : Instruction} {p : Parameter Bool}
    (h : Field.independent.parameter i = .ok p) (actor : Option Actor) :
    (i.independence p).forRun actor = p.forRun actor := by
  unfold Instruction.independence OptionalParameter.forRun
  by_cases habsent : i.flag independentKey = .absent
  · -- a flag that is not written is fixed to what stands for it
    have hnamed : i.named? independentKey = none := by
      unfold Instruction.flag at habsent
      cases hfield : i.named? independentKey with
      | none => rfl
      | some text => simp [hfield] at habsent
    have hbare : ¬ independentKey ∈ i.positional.drop 1 := by
      intro hmem
      simp only [Instruction.flag, hnamed, if_pos hmem] at habsent
      cases habsent
    have htext : Field.independent.text? i = none := hnamed
    simp only [Field.parameter, htext, Field.unwritten?, decide_eq_false hbare,
      Except.ok.injEq] at h
    subst h
    simp only [if_pos habsent]
    rfl
  · simp only [if_neg habsent]

theorem eq_of_said {i : Instruction} {c : Check} (h : said i = .ok c) :
    ∃ condition expected independent failure success,
      Field.condition.parameter i = .ok condition ∧ Field.expected.parameter i = .ok expected ∧
        Field.independent.parameter i = .ok independent ∧
        Field.failure.parameter i = .ok failure ∧ Field.success.parameter i = .ok success ∧
        c = { id := i.id, condition, expected, independent := i.independence independent, failure,
              success, skip := skipMessage } := by
  unfold said at h
  obtain ⟨condition, hcondition, h⟩ := bind_eq_ok_iff.mp h
  obtain ⟨expected, hexpected, h⟩ := bind_eq_ok_iff.mp h
  obtain ⟨independent, hindependent, h⟩ := bind_eq_ok_iff.mp h
  obtain ⟨failure, hfailure, h⟩ := bind_eq_ok_iff.mp h
  obtain ⟨success, hsuccess, h⟩ := bind_eq_ok_iff.mp h
  cases h
  exact ⟨condition, expected, independent, failure, success, hcondition, hexpected, hindependent,
    hfailure, hsuccess, rfl⟩

theorem forField_of_said {i : Instruction} {c : Check} (h : said i = .ok c) (f : Field) :
    ∃ p, f.parameter i = .ok p ∧ ∀ actor, c.forField f actor = p.forRun actor := by
  obtain ⟨condition, expected, independent, failure, success, hcondition, hexpected, hindependent,
    hfailure, hsuccess, rfl⟩ := eq_of_said h
  cases f with
  | condition => exact ⟨condition, hcondition, fun _ => rfl⟩
  | expected => exact ⟨expected, hexpected, fun _ => rfl⟩
  | independent => exact ⟨independent, hindependent, forRun_independence hindependent⟩
  | failure => exact ⟨failure, hfailure, fun _ => rfl⟩
  | success => exact ⟨success, hsuccess, fun _ => rfl⟩

theorem id_of_said {i : Instruction} {c : Check} (h : said i = .ok c) : c.id = i.id := by
  obtain ⟨-, -, -, -, -, -, -, -, -, -, rfl⟩ := eq_of_said h
  rfl

theorem skip_of_said {i : Instruction} {c : Check} (h : said i = .ok c) :
    c.skip = skipMessage := by
  obtain ⟨-, -, -, -, -, -, -, -, -, -, rfl⟩ := eq_of_said h
  rfl

theorem exists_said {i : Instruction} (h : ∀ f : Field, ∃ p, f.parameter i = .ok p) :
    ∃ c, said i = .ok c := by
  obtain ⟨condition, hcondition⟩ := h .condition
  obtain ⟨expected, hexpected⟩ := h .expected
  obtain ⟨independent, hindependent⟩ := h .independent
  obtain ⟨failure, hfailure⟩ := h .failure
  obtain ⟨success, hsuccess⟩ := h .success
  rw [said, hcondition, hexpected, hindependent, hfailure, hsuccess]
  exact ⟨_, rfl⟩

/-! ## Parts of a run -/

section Parts

variable {P : ∀ {α : Type}, Procedure α → Prop}
  (hbind : ∀ {α β : Type} {p : Procedure α} {f : α → Procedure β},
    P p → (∀ a, P (f a)) → P (p >>= f))
  (hnote : ∀ event, P (note event)) (hreport : ∀ severity text, P (report severity text))

include hbind hnote hreport

/-- What sequences have as soon as their parts have it, an examination has. -/
theorem examine_of_parts {c : Check} {found : Option Actor}
    (hevaluate : ∀ condition, P (evaluate found condition))
    (hfields : ∀ f, P (c.forField f found)) : P (c.examine found) := by
  refine hbind (hfields .condition) fun condition => ?_
  refine hbind (hfields .expected) fun expected => ?_
  refine hbind (hnote _) fun _ => ?_
  refine hbind (hevaluate condition) fun actual => ?_
  unfold conclude
  split_ifs
  · exact hbind (hfields .success) fun message => hreport _ _
  · exact hbind (hfields .failure) fun message => hreport _ _

theorem run_of_parts {c : Check} (hevaluate : ∀ actor condition, P (evaluate actor condition))
    (hfields : ∀ f actor, P (c.forField f actor)) (actor : Option Actor) : P (c.run actor) := by
  have hexamine : ∀ found, P (c.examine found) := fun found =>
    examine_of_parts hbind hnote hreport (hevaluate found) fun f => hfields f found
  refine hbind (hfields .independent actor) fun independent => ?_
  cases independent with
  | true => exact hexamine none
  | false =>
    cases actor with
    | none => exact hbind (hnote _) fun _ => hreport _ _
    | some a => exact hexamine (some a)

end Parts

end Check

end QuestCheck
