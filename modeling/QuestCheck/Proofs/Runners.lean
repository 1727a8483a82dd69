import QuestCheck.Proofs.Accounting

/-!
# Two ways through the checks

A suite is run up to the first fault; the command goes on behind it. Up to there both make the same
runs, which exchange and report the same.

* `Check.Loaded`, `Loaded.quiet`: a check that some surroundings have accepted;
* `Command.Run.exchanges`, `exchanges_runAll`: what the command exchanges, run after run;
* `faults_of_fault`, `exchanges_runAll_of_fault`: the command at its first fault;
* `Suite.result_run_of_fault`, `exchanges_run_of_fault`, `lines_run_of_fault`: a suite behind it;
* `Suite.Stops`: what a suite and the command come to where a check fails;
* **`run_agrees_with_runAll`**: one of them stops where the other goes on, and else they agree.
-/

namespace QuestCheck

open Procedure Surroundings Command

variable {s : Surroundings} {checks before after : List Check} {c : Check} {actor : Option Actor}
  {fault : Fault}

/-- The check was loaded, in whatever surroundings. -/
def Check.Loaded (c : Check) : Prop :=
  ∃ (s : Surroundings) (i : Instruction), s.result (Check.build i) = .ok c

theorem Check.Loaded.quiet (h : c.Loaded) : c.Quiet := by
  obtain ⟨s, i, hbuild⟩ := h
  have hcompiled : Check.Compiled i c := Check.compiled_of_yields_build (s.yields_of_result hbuild)
  exact hcompiled.quiet

theorem Suite.loaded_of_result_load {package : Option String} {text : String}
    (h : s.result (load package text) = .ok checks) : ∀ c ∈ checks, c.Loaded := by
  unfold load at h
  cases hparse : parse package text with
  | error rejection =>
    rw [hparse] at h
    cases h
  | ok is =>
    rw [hparse] at h
    intro c hc
    obtain ⟨i, -, hi⟩ := exists_mem_of_forall₂ (result_mapM_eq_ok_iff.mp h) hc
    exact ⟨s, i, hi⟩

namespace Command

/-! ## Runs of the command -/

/-- The exchanges of a run of the command: an event tells of its fault, if it has one. -/
def Run.exchanges (s : Surroundings) (r : Run) : List Exchange :=
  s.exchanges r.procedure ++ match r.fault? s with
    | none => []
    | some f => [⟨.note (.runFailed f.check f.fault), ()⟩]

theorem exchanges_runOne (s : Surroundings) (actor : Option Actor) (c : Check) :
    s.exchanges (runOne actor c) = Run.exchanges s ⟨actor, c⟩ := by
  unfold runOne Run.exchanges Run.fault? Run.procedure
  rw [exchanges_bind_of_ok (s.result_attempt _), exchanges_attempt]
  cases s.result (c.run actor) <;> rfl

/-- **The command** makes the runs of all checks for one actor after another. -/
theorem exchanges_runAll (s : Surroundings) (checks : List Check) (actors : List (Option Actor)) :
    s.exchanges (runAll checks actors) = (runs checks actors).flatMap (Run.exchanges s) := by
  have hturn : ∀ actor, s.exchanges (checks.mapM (runOne actor)) =
      checks.flatMap fun c => Run.exchanges s ⟨actor, c⟩ := by
    intro actor
    rw [exchanges_mapM_of_ok fun c _ => result_runOne s actor c]
    simp only [exchanges_runOne]
  have hturns : ∀ actor ∈ actors, s.result (checks.mapM (runOne actor)) =
      .ok (checks.map fun c => Run.fault? s ⟨actor, c⟩) := fun actor _ => result_turn s checks actor
  unfold runAll runs
  rw [exchanges_bind_of_ok (result_mapM_of_ok hturns), exchanges_mapM_of_ok hturns, pure_eq,
    exchanges_done, List.append_nil, List.flatMap_assoc]
  simp only [hturn, List.flatMap_map]

theorem runs_append (checks : List Check) (front back : List (Option Actor)) :
    runs checks (front ++ back) = runs checks front ++ runs checks back :=
  List.flatMap_append

@[simp] theorem runs_singleton (checks : List Check) (actor : Option Actor) :
    runs checks [actor] = checks.map fun c => ⟨actor, c⟩ := by
  simp [runs]

theorem Run.fault?_of_ok (h : s.result (c.run actor) = .ok ()) :
    Run.fault? s ⟨actor, c⟩ = none := by
  rw [Run.fault?, Run.procedure, h]

theorem Run.fault?_of_error (h : s.result (c.run actor) = .error fault) :
    Run.fault? s ⟨actor, c⟩ = some ⟨c.id, fault⟩ := by
  rw [Run.fault?, Run.procedure, h]

theorem faults_of_ok (h : ∀ b ∈ before, s.result (b.run actor) = .ok ()) :
    faults s (runs before [actor]) = [] := by
  rw [runs_singleton, faults, List.filterMap_map, List.filterMap_eq_nil_iff]
  exact fun b hb => Run.fault?_of_ok (h b hb)

theorem exchanges_of_ok (h : ∀ b ∈ before, s.result (b.run actor) = .ok ()) :
    (runs before [actor]).flatMap (Run.exchanges s) =
      before.flatMap fun b => s.exchanges (b.run actor) := by
  rw [runs_singleton, List.flatMap_map]
  refine List.flatMap_congr fun b hb => ?_
  rw [Run.exchanges, Run.fault?_of_ok (h b hb)]
  exact List.append_nil _

/-- The turn of an actor, cut at the first run that fails. -/
theorem runs_split (before : List Check) (c : Check) (after : List Check)
    (actor : Option Actor) :
    runs (before ++ c :: after) [actor] =
      runs before [actor] ++ ⟨actor, c⟩ :: runs after [actor] := by
  simp only [runs_singleton, List.map_append, List.map_cons]

theorem faults_of_fault (h : ∀ b ∈ before, s.result (b.run actor) = .ok ())
    (hc : s.result (c.run actor) = .error fault) :
    faults s (runs (before ++ c :: after) [actor]) =
      ⟨c.id, fault⟩ :: faults s (runs after [actor]) := by
  have hbefore : (runs before [actor]).filterMap (Run.fault? s) = [] := faults_of_ok h
  rw [faults, runs_split, List.filterMap_append, List.filterMap_cons_some
    (Run.fault?_of_error hc), hbefore, List.nil_append]
  rfl

theorem exchanges_runAll_of_fault (h : ∀ b ∈ before, s.result (b.run actor) = .ok ())
    (hc : s.result (c.run actor) = .error fault) :
    s.exchanges (runAll (before ++ c :: after) [actor]) =
      (before ++ [c]).flatMap (fun b => s.exchanges (b.run actor)) ++
        ⟨.note (.runFailed c.id fault), ()⟩ :: s.exchanges (runAll after [actor]) := by
  rw [exchanges_runAll, runs_split, List.flatMap_append, exchanges_of_ok h, List.flatMap_cons,
    ← exchanges_runAll, Run.exchanges, Run.fault?_of_error hc, List.flatMap_append,
    List.flatMap_singleton]
  simp only [List.append_assoc, List.singleton_append]
  rfl

end Command

namespace Suite

/-! ## A suite behind its first fault -/

theorem run_append (before after : List Check) (actor : Option Actor) :
    run (before ++ after) actor = (do run before actor; run after actor) := by
  unfold run
  rw [List.forM_eq_forM, List.forM_append]

theorem result_run_of_fault (h : ∀ b ∈ before, s.result (b.run actor) = .ok ())
    (hc : s.result (c.run actor) = .error fault) :
    s.result (run (before ++ c :: after) actor) = .error fault := by
  have hbefore : s.result (run before actor) = .ok () := result_forM_eq_ok_iff.mpr h
  rw [run_append, result_bind_of_ok hbefore, run, forM_cons, result_bind_of_error hc]

theorem exchanges_run_of_fault (h : ∀ b ∈ before, s.result (b.run actor) = .ok ())
    (hc : s.result (c.run actor) = .error fault) :
    s.exchanges (run (before ++ c :: after) actor) =
      (before ++ [c]).flatMap fun b => s.exchanges (b.run actor) := by
  have hbefore : s.result (run before actor) = .ok () := result_forM_eq_ok_iff.mpr h
  have hexchanges : s.exchanges (run before actor) =
      before.flatMap fun b => s.exchanges (b.run actor) := exchanges_forM_of_ok h
  rw [run_append, exchanges_bind_of_ok hbefore, hexchanges, run, forM_cons,
    exchanges_bind_of_error hc, List.flatMap_append, List.flatMap_singleton]

theorem lines_run_of_fault (hquiet : c.Quiet)
    (h : ∀ b ∈ before, s.result (b.run actor) = .ok ())
    (hc : s.result (c.run actor) = .error fault) :
    s.lines (run (before ++ c :: after) actor) =
      before.flatMap fun b => s.lines (b.run actor) := by
  have hnone : s.lines (c.run actor) = [] := by
    rcases hquiet.lines_of_course (s.course_exchanges (c.run actor)) with ⟨-, -, hl⟩ | ⟨hok, -⟩
    · exact hl
    · cases hc.symm.trans hok
  unfold Surroundings.lines at hnone ⊢
  rw [exchanges_run_of_fault h hc, List.flatMap_append, List.flatMap_singleton,
    reportedLines_append, hnone, List.append_nil, reportedLines, List.filterMap_flatMap]
  rfl

theorem exists_first_fault (s : Surroundings) (checks : List Check) (actor : Option Actor) :
    (∀ c ∈ checks, s.result (c.run actor) = .ok ()) ∨
      ∃ before c after fault, checks = before ++ c :: after ∧
        (∀ b ∈ before, s.result (b.run actor) = .ok ()) ∧
          s.result (c.run actor) = .error fault := by
  have hok : ∀ c : Check, (¬ ∃ fault, s.result (c.run actor) = .error fault) →
      s.result (c.run actor) = .ok () := by
    intro c hc
    cases hresult : s.result (c.run actor) with
    | ok u => rfl
    | error fault => exact absurd ⟨fault, hresult⟩ hc
  rcases exists_first (fun c : Check => ∃ fault, s.result (c.run actor) = .error fault) checks with
    hall | ⟨before, c, after, heq, hbefore, fault, hc⟩
  · exact .inl fun c hc => hok c (hall c hc)
  · exact .inr ⟨before, c, after, fault, heq, fun b hb => hok b (hbefore b hb), hc⟩

theorem forall₂_lines (h : ∀ b ∈ before, b.Quiet)
    (hok : ∀ b ∈ before, s.result (b.run actor) = .ok ()) :
    List.Forall₂ (fun b line => s.lines (b.run actor) = [line]) before
      (before.flatMap fun b => s.lines (b.run actor)) := by
  induction before with
  | nil => exact .nil
  | cons b before ih =>
    obtain ⟨hb, hbefore⟩ := List.forall_mem_cons.mp h
    obtain ⟨hbok, hbeforeok⟩ := List.forall_mem_cons.mp hok
    rcases hb.lines_of_course (s.course_exchanges (b.run actor)) with
      ⟨fault, hfault, -⟩ | ⟨-, line, hline⟩
    · cases hbok.symm.trans hfault
    · have hlines : s.lines (b.run actor) = [line] := hline
      rw [List.flatMap_cons, hlines]
      exact .cons hlines (ih hbefore hbeforeok)

/-! ## Both ways -/

/-- What the run of a suite and that of the command come to where `c`, behind `before`, is the first
check that fails: the suite ends in its fault and makes no run behind it, and the command goes on
with the checks that are left. -/
structure Stops (s : Surroundings) (actor : Option Actor) (before : List Check) (c : Check)
    (after : List Check) (fault : Fault) (one : Outcome Log Unit)
    (all : Outcome Log (List RunFault)) : Prop where
  passed : ∀ b ∈ before, s.result (b.run actor) = .ok ()
  failed : s.result (c.run actor) = .error fault
  result : one.result = .error fault
  firstFault : all.result = .ok (⟨c.id, fault⟩ :: faults s (runs after [actor]))
  exchanges : one.exchanges = (before ++ [c]).flatMap fun b => s.exchanges (b.run actor)
  resumed : all.exchanges = one.exchanges ++ ⟨.note (.runFailed c.id fault), ()⟩ ::
    s.exchanges (runAll after [actor])
  lines : List.Forall₂ (fun b line => s.lines (b.run actor) = [line]) before one.lines
  linesResumed : all.lines = one.lines ++ s.lines (runAll after [actor])

theorem stops_of_fault (hquiet : ∀ b ∈ before ++ c :: after, b.Quiet)
    (h : ∀ b ∈ before, s.result (b.run actor) = .ok ())
    (hc : s.result (c.run actor) = .error fault) (log : Log) :
    Stops s actor before c after fault (s.run (run (before ++ c :: after) actor) log)
      (s.run (runAll (before ++ c :: after) [actor]) log) := by
  have hquietBefore : ∀ b ∈ before, b.Quiet := fun b hb => hquiet b (List.mem_append_left _ hb)
  have hquietFailed : c.Quiet := hquiet c (List.mem_append_right _ List.mem_cons_self)
  have hresumed : s.exchanges (runAll (before ++ c :: after) [actor]) =
      s.exchanges (run (before ++ c :: after) actor) ++ ⟨.note (.runFailed c.id fault), ()⟩ ::
        s.exchanges (runAll after [actor]) := by
    rw [exchanges_run_of_fault h hc, exchanges_runAll_of_fault h hc]
  refine ⟨h, hc, ?_, ?_, ?_, ?_, ?_, ?_⟩
  · rw [result_run, result_run_of_fault h hc]
  · rw [result_run, result_runAll, faults_of_fault h hc]
  · rw [exchanges_run, exchanges_run_of_fault h hc]
  · rw [exchanges_run, exchanges_run, hresumed]
  · rw [lines_run, lines_run_of_fault hquietFailed h hc]
    exact forall₂_lines hquietBefore h
  · rw [lines_run, lines_run]
    unfold Surroundings.lines
    rw [hresumed, reportedLines_append, reportedLines_note]

/-- **The two ways through the checks agree**: where no check fails, the run of the suite is the
turn of the command; else it ends in the first fault, while the command leaves an event and goes on.
-/
theorem run_agrees_with_runAll (h : ∀ c ∈ checks, c.Loaded) (s : Surroundings)
    (actor : Option Actor) (log : Log) :
    let one := s.run (run checks actor) log
    let all := s.run (runAll checks [actor]) log
    (((∀ c ∈ checks, s.result (c.run actor) = .ok ()) ∧ one.result = .ok () ∧ all.result = .ok [] ∧
          one.exchanges = all.exchanges ∧ one.lines = all.lines) ∨
        ∃ before c after fault, checks = before ++ c :: after ∧
          Stops s actor before c after fault one all) ∧
      (one.state.records = log.records ++ one.lines ∧
        all.state.records = log.records ++ all.lines) ∧
      ∀ front back, (s.run (runAll checks (front ++ actor :: back)) log).exchanges =
        s.exchanges (runAll checks front) ++
          (all.exchanges ++ s.exchanges (runAll checks back)) := by
  intro one all
  have hquiet : ∀ c ∈ checks, c.Quiet := fun c hc => (h c hc).quiet
  have hones : one.exchanges = s.exchanges (run checks actor) := s.exchanges_run _ log
  have halls : all.exchanges = s.exchanges (runAll checks [actor]) := s.exchanges_run _ log
  refine ⟨?_, ⟨s.records_run _ log, s.records_run _ log⟩, fun front back => ?_⟩
  · rcases exists_first_fault s checks actor with hok | ⟨before, c, after, fault, rfl, hb, hc⟩
    · have hexchanges : one.exchanges = all.exchanges := by
        have hforM : s.exchanges (run checks actor) =
            checks.flatMap fun c => s.exchanges (c.run actor) := exchanges_forM_of_ok hok
        rw [hones, halls, hforM, exchanges_runAll, exchanges_of_ok hok]
      have hone : one.result = s.result (run checks actor) := s.result_run _ log
      have hall : all.result = s.result (runAll checks [actor]) := s.result_run _ log
      refine .inl ⟨hok, ?_, ?_, hexchanges, ?_⟩
      · rw [hone]
        exact result_forM_eq_ok_iff.mpr hok
      · rw [hall, result_runAll, faults_of_ok hok]
      · rw [lines_eq_reportedLines, lines_eq_reportedLines, hexchanges]
    · exact .inr ⟨before, c, after, fault, rfl, stops_of_fault hquiet hb hc log⟩
  · have hcons : actor :: back = [actor] ++ back := rfl
    rw [exchanges_run, halls, hcons]
    simp only [exchanges_runAll, runs_append, List.flatMap_append]

/-- Of three checks the second has no outcome for the actor. -/
theorem run_agrees_with_runAll_gap :
    let w : World :=
      ⟨(Conditions.empty.setDefault "open" true).setActor "hasGold" "P1" false, .empty⟩
    ∃ checks, w.surroundings.result
          (load none "t1: test open\nt2: test hasGold\nt3: test open") = .ok checks ∧
      ∃ before c after fault, checks = before ++ c :: after ∧
        Stops w.surroundings (some ⟨"P2"⟩) before c after fault
          (w.surroundings.run (run checks (some ⟨"P2"⟩)) .empty)
          (w.surroundings.run (runAll checks [some ⟨"P2"⟩]) .empty) := by
  intro w
  have hgap : w.surroundings.result
      ((load none "t1: test open\nt2: test hasGold\nt3: test open").bind (run · (some ⟨"P2"⟩))) =
        .error (.unevaluable "hasGold" "no outcome for actor \"P2\"") := by rfl
  rcases result_bind_eq_error_iff.mp hgap with hload | ⟨checks, hload, hrun⟩
  · cases hload
  · have hloaded := loaded_of_result_load hload
    refine ⟨checks, hload, ?_⟩
    rcases (run_agrees_with_runAll hloaded w.surroundings (some ⟨"P2"⟩) .empty).1 with
      ⟨hall, -⟩ | hstops
    · have hok : w.surroundings.result (run checks (some ⟨"P2"⟩)) = .ok () :=
        result_forM_eq_ok_iff.mpr hall
      cases hrun.symm.trans hok
    · exact hstops

end Suite

end QuestCheck
