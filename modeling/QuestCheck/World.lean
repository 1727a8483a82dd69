import QuestCheck.Log
import QuestCheck.Procedure
import QuestCheck.World.Conditions
import QuestCheck.World.Variables

/-!
# Worlds and surroundings

A world fixes the outcomes of conditions and the values of variables. Procedures run in
surroundings, where any source of outcomes and any source of values answer them and a log takes the
report.

* `World`;
* `ConditionSource`, `VariableSource`: a source knows every name unless it says otherwise;
* `Surroundings`, its `handler`, and `World.surroundings`;
* **`records_run`**: a run adds to the log exactly the lines that it reports.
-/

namespace QuestCheck

/-- Fixed outcomes and values. -/
structure World where
  conditions : Conditions
  vars : Variables
  deriving DecidableEq

/-- No condition and no variable. -/
def World.empty : World := ⟨.empty, .empty⟩

/-- A source of outcomes. -/
structure ConditionSource where
  evaluate : Option Actor → QualifiedName → Except Fault Bool
  knows : QualifiedName → Bool := fun _ => true

/-- A source of values. -/
structure VariableSource where
  resolve : Option Actor → String → Except Fault String
  knows : String → Bool := fun _ => true

/-- The table as a source. -/
def Conditions.source (t : Conditions) : ConditionSource := ⟨t.evaluate, t.knows⟩

/-- The table as a source. -/
def Variables.source (t : Variables) : VariableSource := ⟨t.resolve, t.knows⟩

/-- The source without variables. -/
def VariableSource.none : VariableSource :=
  ⟨fun _ name => .error (.unusable (Variables.reference name) "no variables are registered"),
    fun _ => false⟩

/-- What surrounds a procedure. -/
structure Surroundings where
  conditions : ConditionSource
  vars : VariableSource

/-- The sources of a world. -/
def World.surroundings (w : World) : Surroundings := ⟨w.conditions.source, w.vars.source⟩

namespace Surroundings

/-- The sources answer, and the log takes the lines of the report. -/
def handler (s : Surroundings) : Handler Log
  | .knowsCondition condition, log => (s.conditions.knows condition, log)
  | .knowsVariable name, log => (s.vars.knows name, log)
  | .evaluate actor condition, log => (s.conditions.evaluate actor condition, log)
  | .resolve actor name, log => (s.vars.resolve actor name, log)
  | .report line, log => ((), log.push line)
  | .note _, log => ((), log)

variable {α : Type}

/-- The run of a procedure in the surroundings, from a log. -/
def run (s : Surroundings) (p : Procedure α) (log : Log) : Outcome Log α := p.run s.handler log

/-- **A run adds to the log exactly the lines that it reports.** -/
theorem records_run (s : Surroundings) (p : Procedure α) (log : Log) :
    (s.run p log).state.records = log.records ++ (s.run p log).lines := by
  unfold run
  induction p generalizing log with
  | done a => simp [Procedure.run, Outcome.lines]
  | fail fault => simp [Procedure.run, Outcome.lines]
  | ask r next ih =>
    rw [Procedure.run_ask]
    simp only [Outcome.after, Outcome.lines, List.filterMap_append]
    rw [ih]
    cases r <;> simp [handler, Outcome.lines]

end Surroundings

end QuestCheck
