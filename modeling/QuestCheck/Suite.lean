import QuestCheck.Instruction

/-!
# Suites

A suite is a text with one instruction a line, written `name: instruction`. Blank lines and lines
that start with `#` say nothing.

* `Suite.entry`: what one line says;
* `Suite.parse`: the instructions of a suite, in the order of their lines.
-/

namespace QuestCheck.Suite

/-- What a line says: a name and the text of its instruction, or nothing. -/
def entry (line : List Char) : Except Defect (Option (String × String)) :=
  let line := Text.trim line
  if line.isEmpty || line.head? == some '#' then .ok none
  else match Text.cutAt ':' line with
    | none => .error .noColon
    | some (name, text) =>
      let name := String.ofList (Text.trim name)
      if Text.isName name then .ok (some (name, String.ofList text))
      else .error (.badLineName name)

/-- The name of a suite in the place of a line: its package, if it has one. -/
def origin (package : Option String) : String := package.getD "<suite>"

/-- The instructions of the lines from a number on, when some names are taken. -/
def parseLines (package : Option String) (taken : List String) (number : Nat) :
    List (List Char) → Except Rejection (List Instruction)
  | [] => .ok []
  | line :: rest =>
    match entry line with
    | .error defect => .error ⟨s!"{origin package}:{number}", defect⟩
    | .ok none => parseLines package taken (number + 1) rest
    | .ok (some (name, text)) =>
      let id : QualifiedName := ⟨package, name⟩
      if name ∈ taken then .error ⟨id.display, .repeatedLineName number⟩
      else
        match Instruction.parse id text with
        | .error rejection => .error rejection
        | .ok instruction =>
          (parseLines package (name :: taken) (number + 1) rest).map (instruction :: ·)

/-- The instructions of a suite. -/
def parse (package : Option String) (text : String) : Except Rejection (List Instruction) :=
  parseLines package [] 1 (Text.lines text.toList)

end QuestCheck.Suite
