/-!
# Actors

A check is run for an actor, or without one.

* `Actor`.
-/

namespace QuestCheck

/-- Someone for whom checks are run, known by an identifier of any characters. -/
structure Actor where
  id : String
  deriving DecidableEq, Repr

end QuestCheck
