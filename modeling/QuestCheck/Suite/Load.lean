import QuestCheck.Check.Compile
import QuestCheck.Check.Run
import QuestCheck.Suite

/-!
# Loading and running suites

* `Suite.load`: the checks of one suite, which is read whole before its first check is compiled;
* `Suite.loadAll`: the checks of many suites, package by package;
* `Suite.run`: checks one after another, up to the first fault.
-/

namespace QuestCheck.Suite

/-- The checks of a suite. -/
def load (package : Option String) (text : String) : Procedure (List Check) :=
  match parse package text with
  | .error rejection => .fail rejection.fault
  | .ok instructions => instructions.mapM Check.build

/-- The checks of the suites of all packages, in the order of the packages. -/
def loadAll (sources : Dict String) : Procedure (List Check) := do
  return (← sources.toList.mapM fun p => load (some p.1) p.2).flatten

/-- The runs of checks in order; the first fault ends them. -/
def run (checks : List Check) (actor : Option Actor) : Procedure Unit :=
  checks.forM fun c => c.run actor

end QuestCheck.Suite
