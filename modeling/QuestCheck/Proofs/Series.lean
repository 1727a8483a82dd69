import QuestCheck.Proofs.Stages

/-!
# Runs in series

Runs that share one log are made one after another. A run finds nothing of what the runs before it
have left, so that it comes to what it comes to alone, wherever it stands; and what the command
reports for some actors and then for others is the sum of the two reports.

* `Command.series`: runs one after another on one log; `Run.alone`: a run on a log of its own;
* `asAlone_series`, `records_series`: what becomes of the runs, and of the log;
* `Conclusion.Says`: the numbers and the lines of a report, which says nothing else (`Says.unique`);
* `says_append`, `exists_says_of_perm`: the reports on two lists of runs, and on one in another
  order;
* `perform_of_actors`: what the command comes to, for any actors;
* **`series_apart_and_reports_add`**: runs are independent of each other.
-/

namespace QuestCheck.Command

open Procedure Surroundings

variable {s : Surroundings}

/-! ## Runs on one log -/

/-- Runs one after another on one log: what becomes of each, and the log in the end. -/
def series (s : Surroundings) : List Run → Log → List (Outcome Log Unit) × Log
  | [], log => ([], log)
  | r :: rs, log =>
    let o := s.run r.procedure log
    let rest := series s rs o.state
    (o :: rest.1, rest.2)

/-- A run on an empty log of its own. -/
def Run.alone (s : Surroundings) (r : Run) : Outcome Log Unit := s.run r.procedure .empty

/-- The lines that stand in the log of a run on its own. -/
def Run.ownLines (s : Surroundings) (r : Run) : List Line := (r.alone s).state.records

theorem Run.ownLines_eq (s : Surroundings) (r : Run) : r.ownLines s = s.lines r.procedure :=
  s.records_run r.procedure .empty

theorem Run.length_ownLines {r : Run} (h : r.check.Quiet) :
    (r.ownLines s).length = if (r.alone s).result.isOk then 1 else 0 := by
  have hresult : (r.alone s).result = s.result r.procedure := rfl
  rw [ownLines_eq, hresult]
  unfold Surroundings.lines
  rcases h.lines_of_course (s.course_exchanges r.procedure) with ⟨fault, hr, hl⟩ | ⟨hr, line, hl⟩
  · rw [hr, hl]
    rfl
  · rw [hr, hl]
    rfl

/-- What becomes of a run is what becomes of it alone, and it reports the lines of its own. -/
structure Run.AsAlone (s : Surroundings) (r : Run) (o : Outcome Log Unit) : Prop where
  result : o.result = (r.alone s).result
  exchanges : o.exchanges = (r.alone s).exchanges
  lines : o.lines = r.ownLines s

theorem Run.asAlone_run (s : Surroundings) (r : Run) (log : Log) :
    r.AsAlone s (s.run r.procedure log) := by
  refine ⟨?_, ?_, ?_⟩
  · exact s.result_run r.procedure log
  · exact s.exchanges_run r.procedure log
  · rw [lines_run, ownLines_eq]

/-- **Every run of a series comes to what it comes to alone.** -/
theorem asAlone_series (s : Surroundings) (rs : List Run) (log : Log) :
    List.Forall₂ (Run.AsAlone s) rs (series s rs log).1 := by
  induction rs generalizing log with
  | nil => exact .nil
  | cons r rs ih => exact .cons (r.asAlone_run s log) (ih _)

/-- **The log of a series** takes the own lines of one run after another. -/
theorem records_series (s : Surroundings) (rs : List Run) (log : Log) :
    (series s rs log).2.records = log.records ++ rs.flatMap (Run.ownLines s) := by
  induction rs generalizing log with
  | nil => exact (List.append_nil _).symm
  | cons r rs ih =>
    show (series s rs (s.run r.procedure log).state).2.records = _
    rw [ih, records_run, lines_run, List.flatMap_cons, ← Run.ownLines_eq, List.append_assoc]

/-! ## Reports -/

/-- The report has a line for each error, and then the numbers and the verdict. -/
structure Conclusion.Says (c : Conclusion) (tests passed failed : Nat) (errors : List String) :
    Prop where
  output : c.output = errors ++ ["TESTS:" ++ Nat.repr tests, "PASSED:" ++ Nat.repr passed,
    "FAILED:" ++ Nat.repr failed, if failed = 0 then "RESULT:OK" else "RESULT:FAILED"]
  exitCode : c.exitCode = if failed = 0 then 0 else 1

theorem Conclusion.Says.exitCode_eq_zero_iff {c : Conclusion} {tests passed failed : Nat}
    {errors : List String} (h : c.Says tests passed failed errors) :
    c.exitCode = 0 ↔ failed = 0 := by
  rw [h.exitCode]
  split_ifs with hfailed <;> simp [hfailed]

theorem repr_inj {m n : Nat} (h : Nat.repr m = Nat.repr n) : m = n := by
  have hdigits : Nat.toDigits 10 m = Nat.toDigits 10 n := String.ofList_inj.mp h
  rw [← Nat.ofDigitChars_ten_toDigits (n := m), hdigits, Nat.ofDigitChars_ten_toDigits]

theorem Conclusion.Says.unique {c : Conclusion} {tests tests' passed passed' failed failed' : Nat}
    {errors errors' : List String} (h : c.Says tests passed failed errors)
    (h' : c.Says tests' passed' failed' errors') :
    tests = tests' ∧ passed = passed' ∧ failed = failed' ∧ errors = errors' := by
  obtain ⟨herrors, hlast⟩ := List.append_inj' (h.output.symm.trans h'.output) rfl
  simp only [List.cons.injEq, String.append_right_inj] at hlast
  obtain ⟨htests, hpassed, hfailed, -⟩ := hlast
  exact ⟨repr_inj htests, repr_inj hpassed, repr_inj hfailed, herrors⟩

theorem says_summaryOf (s : Surroundings) (rs : List Run) :
    (Conclusion.finished (summaryOf s rs)).Says rs.length (passed s rs) (failed s rs)
      ((faults s rs).map RunFault.line) := by
  have hsuccess : (summaryOf s rs).success = true ↔ failed s rs = 0 := by
    unfold Summary.success
    rw [beq_iff_eq, failed_summaryOf]
  refine ⟨?_, ?_⟩
  · show (summaryOf s rs).output = _
    unfold Summary.output
    rw [failed_summaryOf]
    simp only [hsuccess]
    rfl
  · show (if (summaryOf s rs).success = true then 0 else 1) = _
    simp only [hsuccess]

theorem passed_append (s : Surroundings) (rs ts : List Run) :
    passed s (rs ++ ts) = passed s rs + passed s ts :=
  List.countP_append

theorem faults_append (s : Surroundings) (rs ts : List Run) :
    faults s (rs ++ ts) = faults s rs ++ faults s ts :=
  List.filterMap_append

theorem failed_append (s : Surroundings) (rs ts : List Run) :
    failed s (rs ++ ts) = failed s rs + failed s ts := by
  unfold failed
  rw [faults_append, List.length_append, List.countP_append]
  omega

/-- **The report on two lists of runs** is the sum of the reports on each. -/
theorem says_append (s : Surroundings) (rs ts : List Run) :
    (Conclusion.finished (summaryOf s (rs ++ ts))).Says (rs.length + ts.length)
      (passed s rs + passed s ts) (failed s rs + failed s ts)
      ((faults s rs).map RunFault.line ++ (faults s ts).map RunFault.line) := by
  have h := says_summaryOf s (rs ++ ts)
  rwa [List.length_append, passed_append, failed_append, faults_append, List.map_append] at h

/-- **The report on runs in another order** has the same numbers, and the same errors in another
order. -/
theorem exists_says_of_perm (s : Surroundings) {rs ts : List Run} (h : ts.Perm rs) :
    ∃ errors, errors.Perm ((faults s rs).map RunFault.line) ∧
      (Conclusion.finished (summaryOf s ts)).Says rs.length (passed s rs) (failed s rs) errors := by
  have hfaults : (faults s ts).Perm (faults s rs) := h.filterMap _
  have hpassed : passed s ts = passed s rs := h.countP_eq _
  have hfailed : failed s ts = failed s rs := by
    unfold failed
    rw [hfaults.length_eq, h.countP_eq]
  refine ⟨_, hfaults.map RunFault.line, ?_⟩
  have hsays := says_summaryOf s ts
  rwa [h.length_eq, hpassed, hfailed] at hsays

/-! ## Actors of the command -/

theorem runActors_append {xs ys : List String} (hx : xs ≠ []) (hy : ys ≠ []) :
    runActors (xs ++ ys) = runActors xs ++ runActors ys := by
  unfold runActors
  simp [hx, hy]

theorem runActors_perm {xs ys : List String} (h : xs.Perm ys) :
    (runActors xs).Perm (runActors ys) := by
  unfold runActors
  cases xs with
  | nil => rw [h.symm.eq_nil]
  | cons x xs =>
    have hy : ys ≠ [] := by
      rintro rfl
      exact List.cons_ne_nil x xs h.eq_nil
    simpa [hy] using h.map fun id => some (⟨id⟩ : Actor)

theorem runs_perm (checks : List Check) {xs ys : List (Option Actor)} (h : xs.Perm ys) :
    (runs checks xs).Perm (runs checks ys) :=
  h.flatMap_right _

/-- What the command comes to for any actors: it fails before any run, or it makes the runs of the
loaded checks. -/
theorem perform_of_actors (complaint : Complaint) (files : Files) (o : Options) :
    (∃ f, ∀ ids, (perform complaint files { o with actors := ids }).conclusion = .failed f) ∨
      ∃ s checks, ∀ ids, (perform complaint files { o with actors := ids }).conclusion =
        .finished (summaryOf s (runs checks (runActors ids))) := by
  cases hsuites : readSuites files o.scriptsDir with
  | error f =>
    have hperform : ∀ ids, perform complaint files { o with actors := ids } = ⟨.failed f, []⟩ :=
      fun ids => perform_of_suites_error hsuites
    refine .inl ⟨f, fun ids => ?_⟩
    rw [hperform]
  | ok suites =>
    cases hworld : readWorld complaint files o.world with
    | error f =>
      have hperform : ∀ ids, perform complaint files { o with actors := ids } = ⟨.failed f, []⟩ :=
        fun ids => perform_of_world_error hsuites hworld
      refine .inl ⟨f, fun ids => ?_⟩
      rw [hperform]
    | ok w =>
      have hperform : ∀ ids, perform complaint files { o with actors := ids } =
          runSuites o.scriptsDir suites w ids := fun ids => perform_of_ok hsuites hworld
      cases hload : w.surroundings.result (load o.scriptsDir suites) with
      | error fault =>
        refine .inl ⟨.rejected fault, fun ids => ?_⟩
        rw [hperform, runSuites_of_error hload]
      | ok checks =>
        refine .inr ⟨w.surroundings, checks, fun ids => ?_⟩
        rw [hperform, conclusion_runSuites hload]

/-! ## Both together -/

/-- **Runs are independent of each other.** Each run of a series comes to what it comes to alone, in
any order; and what the command reports for some actors and then for others is the sum of both
reports. -/
theorem series_apart_and_reports_add :
    (∀ (s : Surroundings) (rs ts : List Run) (log : Log), ts.Perm rs →
      List.Forall₂ (Run.AsAlone s) ts (series s ts log).1 ∧
        (series s ts log).2.records = log.records ++ ts.flatMap (Run.ownLines s) ∧
        (series s ts log).2.records.Perm (series s rs log).2.records ∧
        ∀ r ∈ ts, r.check.Quiet →
          (r.ownLines s).length = if (r.alone s).result.isOk then 1 else 0) ∧
    ∀ (complaint : Complaint) (files : Files) (o : Options) (xs ys : List String),
      xs ≠ [] → ys ≠ [] →
      let report := fun ids => (perform complaint files { o with actors := ids }).conclusion
      ((∃ f, ∀ ids, report ids = .failed f) ∨
        ∃ t₁ t₂ p₁ p₂ f₁ f₂ e₁ e₂, (report xs).Says t₁ p₁ f₁ e₁ ∧ (report ys).Says t₂ p₂ f₂ e₂ ∧
          (report (xs ++ ys)).Says (t₁ + t₂) (p₁ + p₂) (f₁ + f₂) (e₁ ++ e₂) ∧
          ∀ zs, zs.Perm (xs ++ ys) → ∃ e, e.Perm (e₁ ++ e₂) ∧
            (report zs).Says (t₁ + t₂) (p₁ + p₂) (f₁ + f₂) e) ∧
        ((report (xs ++ ys)).exitCode = 0 ↔
          (report xs).exitCode = 0 ∧ (report ys).exitCode = 0) := by
  refine ⟨fun s rs ts log hperm => ⟨asAlone_series s ts log, records_series s ts log, ?_,
    fun r _ => Run.length_ownLines⟩, ?_⟩
  · rw [records_series, records_series]
    exact (hperm.flatMap_right _).append_left _
  intro complaint files o xs ys hx hy report
  rcases perform_of_actors complaint files o with ⟨f, hfailed⟩ | ⟨s, checks, hfinished⟩
  · have hexit : ∀ ids, (report ids).exitCode = 1 := fun ids => by
      show (perform complaint files { o with actors := ids }).conclusion.exitCode = 1
      rw [hfailed]
      rfl
    refine ⟨.inl ⟨f, hfailed⟩, ?_⟩
    rw [hexit, hexit, hexit]
    decide
  · have hsum : runs checks (runActors (xs ++ ys)) =
        runs checks (runActors xs) ++ runs checks (runActors ys) := by
      rw [runActors_append hx hy, runs_append]
    have hxs : (report xs).Says _ _ _ _ := hfinished xs ▸ says_summaryOf s _
    have hys : (report ys).Says _ _ _ _ := hfinished ys ▸ says_summaryOf s _
    have hboth : (report (xs ++ ys)).Says _ _ _ _ :=
      hfinished (xs ++ ys) ▸ hsum ▸ says_append s _ _
    refine ⟨.inr ⟨_, _, _, _, _, _, _, _, hxs, hys, hboth, fun zs hzs => ?_⟩, ?_⟩
    · have hperm : (runs checks (runActors zs)).Perm
          (runs checks (runActors xs) ++ runs checks (runActors ys)) :=
        hsum ▸ runs_perm checks (runActors_perm hzs)
      obtain ⟨e, he, hsays⟩ := exists_says_of_perm s hperm
      rw [List.length_append, passed_append, failed_append, ← hfinished zs] at hsays
      rw [faults_append, List.map_append] at he
      exact ⟨e, he, hsays⟩
    · rw [hxs.exitCode_eq_zero_iff, hys.exitCode_eq_zero_iff, hboth.exitCode_eq_zero_iff,
        Nat.add_eq_zero_iff]

/-- A check with another outcome for one of two actors; and a town with a check that fails for one
of them and one that ends in a fault for the other. -/
theorem series_apart_and_reports_add_two_actors :
    let w : World :=
      ⟨((Conditions.empty.setDefault "open" true).setActor "open" "P2" false).setActor "gated" "P2"
        true, .empty⟩
    let c : Check :=
      { id := ⟨none, "t1"⟩
        condition := .fixed ⟨none, "open"⟩
        expected := .fixed true
        independent := ⟨none, false⟩
        failure := .fixed Check.failureByDefault
        success := .fixed Check.successByDefault
        skip := Check.skipMessage }
    let rs : List Run := [⟨some ⟨"P1"⟩, c⟩, ⟨some ⟨"P2"⟩, c⟩]
    let files := townFiles "t1: test open\nt2: test gated\n"
      ("\x7b\"conditions\":\x7b" ++
        "\"open\":\x7b\"default\":true,\"actors\":\x7b\"P2\":false\x7d\x7d," ++
        "\"gated\":\x7b\"actors\":\x7b\"P2\":true\x7d\x7d\x7d\x7d")
    let report := fun ids =>
      (perform .silent files ⟨"\"a\"", some "world.json", ids, false⟩).conclusion
    let error := "RUN_ERROR:town>t2:PREDICATE_EVALUATION"
    (series w.surroundings rs.reverse .empty).2.records.Perm
        (series w.surroundings rs .empty).2.records ∧
      (series w.surroundings rs .empty).2.records.length = 2 ∧
      (report ["P1"]).Says 2 1 1 [error] ∧ (report ["P2"]).Says 2 1 1 [] ∧
      (report ["P1", "P2"]).Says 4 2 2 [error] ∧ (report ["P2", "P1"]).Says 4 2 2 [error] ∧
      ((report ["P1", "P2"]).exitCode = 0 ↔
        (report ["P1"]).exitCode = 0 ∧ (report ["P2"]).exitCode = 0) := by
  intro w c rs files report error
  obtain ⟨-, -, hrecords, -⟩ :=
    series_apart_and_reports_add.1 w.surroundings rs rs.reverse .empty (List.reverse_perm rs)
  have hreport : ∀ ids, report ids =
      (runSuites "\"a\"" (Dict.ofPairs [("town", "t1: test open\nt2: test gated\n")]) w
        ids).conclusion :=
    fun ids => congrArg Execution.conclusion (perform_townFiles rfl .silent _ ids)
  have hone : (report ["P1"]).Says 2 1 1 [error] := by
    rw [hreport]
    exact ⟨by decide +kernel, by decide +kernel⟩
  have hother : (report ["P2"]).Says 2 1 1 [] := by
    rw [hreport]
    exact ⟨by decide +kernel, by decide +kernel⟩
  obtain ⟨hsums, hexit⟩ := series_apart_and_reports_add.2 .silent files
    ⟨"\"a\"", some "world.json", [], false⟩ ["P1"] ["P2"] (List.cons_ne_nil _ _)
    (List.cons_ne_nil _ _)
  rcases hsums with ⟨f, hf⟩ | ⟨t₁, t₂, p₁, p₂, f₁, f₂, e₁, e₂, h₁, h₂, hboth, horder⟩
  · have houtput := hone.output
    rw [show report ["P1"] = .failed f from hf ["P1"]] at houtput
    exact absurd (List.cons.inj houtput).1 (by decide)
  · obtain ⟨rfl, rfl, rfl, rfl⟩ := h₁.unique hone
    obtain ⟨rfl, rfl, rfl, rfl⟩ := h₂.unique hother
    obtain ⟨errors, herrors, hswapped⟩ := horder ["P2", "P1"] (.swap ..)
    obtain rfl := List.perm_singleton.mp herrors
    exact ⟨hrecords, rfl, hone, hother, hboth, hswapped, hexit⟩

end QuestCheck.Command
