import QuestCheck.Defect
import QuestCheck.Instruction
import QuestCheck.Parameter

/-!
# Fields of an instruction

The texts of an instruction's fields are read as parameters. A text `%name%` refers to a variable,
which has to be known at once and whose value is asked for, and read, in every run; any other text
is read at once.

* `reference?`: the variable that a text refers to;
* `Instruction.parameter`, and `positionalParameter`, `namedParameter`, `flagParameter`, which find
  the text first;
* `Instruction.rejectOthers`, `Instruction.warnOthers`: what is there beside the fields asked for;
* **`parameter_of_reading`**: a text that is no reference and that can be read is fixed, and nothing
  is asked.
-/

namespace QuestCheck

/-- The variable that a text refers to: a name between two percent signs. -/
def reference? (text : String) : Option String :=
  match text.toList with
  | '%' :: rest =>
    let name := String.ofList rest.dropLast
    if rest.getLast? = some '%' ∧ Text.isName name then some name else none
  | _ => none

namespace Instruction

variable {α : Type}

/-- The instruction is rejected for a defect. -/
def reject (i : Instruction) (defect : Defect) : Procedure α :=
  .fail (Rejection.fault ⟨i.id.display, defect⟩)

/-- The parameter that the text of a field says. -/
def parameter (i : Instruction) (field : String) (read : Reading α) (text : String) :
    Procedure (Parameter α) :=
  match reference? text with
  | none =>
    match read text with
    | .ok value => .done (.fixed value)
    | .error cause => i.reject (.misreadField field cause)
  | some name => do
    if ← Procedure.knowsVariable name then
      return .computed fun actor => do
        match read (← Procedure.resolve actor name) with
        | .ok value => return value
        | .error cause => .fail (.unusable (i.id.display ++ "." ++ field) cause.message)
    else i.reject (.unknownVariable field name)

/-- The parameter of a positional field, which has to be there. -/
def positionalParameter (i : Instruction) (index : Nat) (field : String) (read : Reading α) :
    Procedure (Parameter α) :=
  match i.positional? index with
  | some text => i.parameter field read text
  | none => i.reject (.missingField field)

/-- The parameter of a named field, fixed to a value where the field is missing. -/
def namedParameter (i : Instruction) (key : String) (missing : α) (read : Reading α) :
    Procedure (Parameter α) :=
  match i.named? key with
  | some text => i.parameter key read text
  | none => .done (.fixed missing)

/-- The parameter of a flag: `bare` is its value without a text, `absent` stands for it where it is
not written. -/
def flagParameter (i : Instruction) (key : String) (bare absent : α) (read : Reading α) :
    Procedure (OptionalParameter α) :=
  match i.flag key with
  | .absent => .done ⟨none, absent⟩
  | .bare => .done ⟨some (.fixed bare), absent⟩
  | .valued text => do return ⟨some (← i.parameter key read text), absent⟩

/-- The positional fields from an index on have to be flags. -/
def rejectOthers (i : Instruction) (index : Nat) (flags : List String) : Procedure Unit :=
  match (i.positional.drop index).find? (· ∉ flags) with
  | some token => i.reject (.unexpectedToken token)
  | none => .done ()

/-- Every named field that is not known leaves an event, in the order of the keys. -/
def warnOthers (i : Instruction) (known : List String) : Procedure Unit :=
  (i.named.keys.filter (· ∉ known)).forM fun key => Procedure.note (.unknownField i.id key)

/-- **A text that is no reference and that can be read is fixed, and nothing is asked.** -/
theorem parameter_of_reading (i : Instruction) (field : String) {read : Reading α} {text : String}
    {value : α} (href : reference? text = none) (hread : read text = .ok value) :
    i.parameter field read text = .done (.fixed value) := by
  simp only [parameter, href, hread]

end Instruction

end QuestCheck
