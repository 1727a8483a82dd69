import QuestCheck.Event

/-!
# The log

The log keeps the report lines in the order of their arrival until they are taken.

* `Log`, `push`, `records` and `take`.
-/

namespace QuestCheck

/-- The report lines that have arrived and have not been taken. -/
structure Log where
  lines : Array Line
  deriving DecidableEq

namespace Log

/-- No line. -/
def empty : Log := ⟨#[]⟩

/-- One more line. -/
def push (log : Log) (line : Line) : Log := ⟨log.lines.push line⟩

/-- All lines, which stay. -/
def records (log : Log) : List Line := log.lines.toList

/-- All lines, which are gone afterwards. -/
def take (log : Log) : List Line × Log := (log.records, empty)

@[simp] theorem records_empty : empty.records = [] := rfl

@[simp] theorem records_push (log : Log) (line : Line) :
    (log.push line).records = log.records ++ [line] := by
  simp [records, push]

end Log

end QuestCheck
