import QuestCheck.Check.Compile
import QuestCheck.Check.Run
import QuestCheck.Proofs.Course
import QuestCheck.World

/-!
# The meaning of an instruction

An instruction can be performed without being compiled: each field is read from its text when its
value is needed, for the actor of that moment. Compiling only moves the reading of what does not
hang on the run to an earlier time.

* `reference?_eq_some_iff`: what is written as a reference;
* `Instruction.readText`, `readPositional`, `readNamed`, `readFlag`: fields read in a run;
* `Instruction.perform`: the instruction performed from its fields;
* `forRun_of_yields_parameter` and its like: a parameter finds what reading its field finds;
* `Check.Compiled`, `compiled_of_yields`: what holds of the check that an instruction compiles to;
* **`run_eq_perform_of_compile`**: the check of an instruction runs as the instruction is performed.
-/

namespace QuestCheck

theorem reference?_eq_some_iff {text name : String} :
    reference? text = some name ↔ text = "%" ++ name ++ "%" ∧ Text.isName name = true := by
  have hwritten : ("%" ++ name ++ "%").toList = '%' :: (name.toList ++ ['%']) := by
    rw [String.toList_append, String.toList_append]
    rfl
  rw [← String.toList_inj, hwritten]
  unfold reference?
  split
  · next rest htext =>
    rw [htext, List.cons.injEq, Option.ite_none_right_eq_some, Option.some.injEq]
    constructor
    · rintro ⟨⟨hlast, hvalid⟩, rfl⟩
      refine ⟨⟨rfl, ?_⟩, hvalid⟩
      rw [String.toList_ofList, List.dropLast_append_getLast? _ hlast]
    · rintro ⟨⟨-, hrest⟩, hvalid⟩
      have hdrop : String.ofList rest.dropLast = name := by
        rw [hrest, List.dropLast_concat, String.ofList_toList]
      exact ⟨⟨by rw [hrest, List.getLast?_concat], hdrop.symm ▸ hvalid⟩, hdrop⟩
  · next hno =>
    constructor
    · rintro ⟨⟩
    · rintro ⟨heq, -⟩
      exact absurd heq (hno _)

namespace Instruction

open Procedure

variable {α : Type}

/-! ## Reading fields in a run -/

/-- The value of a field's text for an actor. A reference is asked for; any other text is read as it
stands. -/
def readText (i : Instruction) (field : String) (read : Reading α) (actor : Option Actor)
    (text : String) : Procedure α :=
  match reference? text with
  | none =>
    match read text with
    | .ok value => .done value
    | .error cause => i.reject (.misreadField field cause)
  | some name => do
    match read (← Procedure.resolve actor name) with
    | .ok value => return value
    | .error cause => .fail (.unusable (i.id.display ++ "." ++ field) cause.message)

/-- The value of a positional field. -/
def readPositional (i : Instruction) (index : Nat) (field : String) (read : Reading α)
    (actor : Option Actor) : Procedure α :=
  match i.positional? index with
  | some text => i.readText field read actor text
  | none => i.reject (.missingField field)

/-- The value of a named field, or another one where the field is missing. -/
def readNamed (i : Instruction) (key : String) (missing : α) (read : Reading α)
    (actor : Option Actor) : Procedure α :=
  match i.named? key with
  | some text => i.readText key read actor text
  | none => .done missing

/-- The truth of a flag: what is written behind its key, or else whether the bare word stands
behind the first positional field. -/
def readFlag (i : Instruction) (key : String) (actor : Option Actor) : Procedure Bool :=
  match i.named? key with
  | some text => i.readText key Truth.parse actor text
  | none => .done (decide (key ∈ i.positional.drop 1))

/-- **An instruction performed from its fields.** The independence is read for the actor of the run.
Where the instruction depends on an actor and there is none, this is reported and nothing else is
read. Else the condition and the expected outcome are read, for nobody if the instruction is
independent, the condition is evaluated, and one message is read and reported. -/
def perform (i : Instruction) (actor : Option Actor) : Procedure Unit := do
  let independent ← i.readFlag "independent" actor
  if independent = false ∧ actor = none then
    Procedure.note (.skipped i.id)
    Procedure.report .error (Check.skipMessage.fill [i.id.display])
  else
    let actor := if independent then none else actor
    let condition ← i.readPositional 0 "condition" QualifiedName.parse actor
    let expected ← i.readNamed "expected" true Truth.parse actor
    Procedure.note (.evaluating i.id condition actor expected)
    let actual ← Procedure.evaluate actor condition
    if actual = expected then
      let message ← i.readNamed "success" Check.successByDefault (Template.parse 2) actor
      Procedure.report .info (message.fill [i.id.display, condition.display])
    else
      let message ← i.readNamed "fail" Check.failureByDefault (Template.parse 4) actor
      Procedure.report .error
        (message.fill [i.id.display, condition.display, Truth.text expected, Truth.text actual])

/-! ## Parameters find what reading finds -/

theorem forRun_of_yields_parameter {i : Instruction} {field : String} {read : Reading α}
    {text : String} {p : Parameter α} (h : (i.parameter field read text).Yields p)
    (actor : Option Actor) : p.forRun actor = i.readText field read actor text := by
  unfold parameter at h
  unfold readText
  cases href : reference? text with
  | none =>
    simp only [href] at h ⊢
    cases hread : read text with
    | ok value =>
      simp only [hread] at h ⊢
      obtain rfl := yields_done_iff.mp h
      rfl
    | error cause =>
      simp only [hread] at h
      exact absurd h not_yields_fail
  | some name =>
    simp only [href] at h ⊢
    obtain ⟨known, -, h⟩ := yields_bind_iff.mp h
    cases known with
    | false => exact absurd h not_yields_fail
    | true =>
      obtain rfl := yields_done_iff.mp h
      rfl

theorem forRun_of_yields_positional {i : Instruction} {index : Nat} {field : String}
    {read : Reading α} {p : Parameter α}
    (h : (i.positionalParameter index field read).Yields p) (actor : Option Actor) :
    p.forRun actor = i.readPositional index field read actor := by
  unfold positionalParameter at h
  unfold readPositional
  cases hfield : i.positional? index with
  | none =>
    rw [hfield] at h
    exact absurd h not_yields_fail
  | some text =>
    rw [hfield] at h
    exact forRun_of_yields_parameter h actor

theorem forRun_of_yields_named {i : Instruction} {key : String} {missing : α} {read : Reading α}
    {p : Parameter α} (h : (i.namedParameter key missing read).Yields p) (actor : Option Actor) :
    p.forRun actor = i.readNamed key missing read actor := by
  unfold namedParameter at h
  unfold readNamed
  cases hfield : i.named? key with
  | none =>
    rw [hfield] at h
    obtain rfl := yields_done_iff.mp h
    rfl
  | some text =>
    rw [hfield] at h
    exact forRun_of_yields_parameter h actor

theorem forRun_of_yields_flag {i : Instruction} {key : String} {p : OptionalParameter Bool}
    (h : (i.flagParameter key true false Truth.parse).Yields p) (actor : Option Actor) :
    p.forRun actor = i.readFlag key actor := by
  unfold flagParameter flag at h
  unfold readFlag
  cases hfield : i.named? key with
  | none =>
    rw [hfield] at h
    by_cases hbare : key ∈ i.positional.drop 1
    · simp only [if_pos hbare] at h
      obtain rfl := yields_done_iff.mp h
      simp only [decide_eq_true hbare]
      rfl
    · simp only [if_neg hbare] at h
      obtain rfl := yields_done_iff.mp h
      simp only [decide_eq_false hbare]
      rfl
  | some text =>
    rw [hfield] at h
    obtain ⟨parameter, hp, h⟩ := yields_bind_iff.mp h
    obtain rfl := yields_done_iff.mp h
    exact forRun_of_yields_parameter hp actor

end Instruction

namespace Check

open Procedure

variable {σ τ : Type}

/-- What holds of a check that an instruction compiles to. -/
structure Compiled (i : Instruction) (c : Check) : Prop where
  kind_eq : i.kind = kind
  id_eq : c.id = i.id
  others : (i.rejectOthers 1 [independentKey]).Yields ()
  condition : (i.positionalParameter 0 "condition" QualifiedName.parse).Yields c.condition
  known : (requireKnown i c.condition).Yields ()
  expected : (i.namedParameter "expected" expectedByDefault Truth.parse).Yields c.expected
  independent : (i.flagParameter independentKey flaggedIndependent unflaggedIndependent
    Truth.parse).Yields c.independent
  failure : (i.namedParameter "fail" failureByDefault
    (Template.parse failureArity)).Yields c.failure
  success : (i.namedParameter "success" successByDefault
    (Template.parse successArity)).Yields c.success
  skip_eq : c.skip = skipMessage

theorem compiled_of_yields {i : Instruction} {c : Check} (h : (compile i).Yields c) :
    Compiled i c := by
  unfold compile at h
  split at h
  · next hkind =>
    obtain ⟨-, -, h⟩ := yields_bind_iff.mp h
    obtain ⟨⟨⟩, hothers, h⟩ := yields_bind_iff.mp h
    obtain ⟨condition, hcondition, h⟩ := yields_bind_iff.mp h
    obtain ⟨⟨⟩, hknown, h⟩ := yields_bind_iff.mp h
    obtain ⟨expected, hexpected, h⟩ := yields_bind_iff.mp h
    obtain ⟨independent, hindependent, h⟩ := yields_bind_iff.mp h
    obtain ⟨failure, hfailure, h⟩ := yields_bind_iff.mp h
    obtain ⟨success, hsuccess, h⟩ := yields_bind_iff.mp h
    obtain rfl := yields_done_iff.mp h
    exact ⟨hkind, rfl, hothers, hcondition, hknown, hexpected, hindependent, hfailure, hsuccess,
      rfl⟩
  · exact absurd h not_yields_fail

theorem Compiled.run_eq {i : Instruction} {c : Check} (h : Compiled i c) (actor : Option Actor) :
    c.run actor = i.perform actor := by
  have hindependent := Instruction.forRun_of_yields_flag h.independent
  have hcondition := Instruction.forRun_of_yields_positional h.condition
  have hexpected := Instruction.forRun_of_yields_named h.expected
  have hsuccess := Instruction.forRun_of_yields_named h.success
  have hfailure := Instruction.forRun_of_yields_named h.failure
  unfold run Instruction.perform
  rw [hindependent]
  congr 1
  funext independent
  cases independent with
  | true =>
    simp only [examine, conclude, hcondition, hexpected, hsuccess, hfailure, h.id_eq]
    rfl
  | false =>
    cases actor with
    | none =>
      simp only [skipRun, h.skip_eq, h.id_eq]
      rfl
    | some a =>
      simp only [examine, conclude, hcondition, hexpected, hsuccess, hfailure, h.id_eq]
      rfl

/-- **A check runs as its instruction is performed from its fields**, for every actor and whoever
answers. -/
theorem run_eq_perform_of_compile {i : Instruction} {c : Check} {g : Handler τ} {t : τ}
    (hc : ((compile i).run g t).result = .ok c) (h : Handler σ) (s : σ) (actor : Option Actor) :
    (c.run actor).run h s = (i.perform actor).run h s := by
  rw [(compiled_of_yields (yields_of_run hc)).run_eq]

/-- A check whose expected outcome and independence are looked up, run for an actor who has them. -/
theorem run_eq_perform_of_compile_referring :
    let w : World := ⟨Conditions.empty.setDefault "hasGold" true,
      ((Variables.empty.setActor "P1" "want" "false").setGlobal "free" "true")⟩
    let i : Instruction := ⟨⟨none, "t1"⟩, "test hasGold expected:%want% independent:%free%", "test",
      ["hasGold"], Dict.ofPairs [("expected", "%want%"), ("independent", "%free%")]⟩
    ∃ c, (w.surroundings.run (compile i) .empty).result = .ok c ∧
      w.surroundings.run (c.run (some ⟨"P1"⟩)) .empty =
        w.surroundings.run (i.perform (some ⟨"P1"⟩)) .empty := by
  intro w i
  have hok : (w.surroundings.run (compile i) .empty).result.isOk = true := by rfl
  obtain ⟨c, hc⟩ := exists_of_isOk hok
  exact ⟨c, hc, run_eq_perform_of_compile hc _ _ _⟩

end Check

end QuestCheck
