import Mathlib.Data.List.Nodup
import QuestCheck.Proofs.Codec
import QuestCheck.Proofs.Loading
import QuestCheck.Proofs.Names
import QuestCheck.Proofs.Surroundings
import QuestCheck.Text.Bytes

/-!
# Suites line by line

A suite is read line by line, and nothing passes from one line to another but the names that are
taken. So many suites are loaded exactly if all their lines are well formed and each of them loads
on its own, and then they have the checks of their lines, in order.

* `Declaration`, and `Declaration.build`, its check;
* `Suite.Speaks`, `declarations`: the lines that say something, and what they declare;
* `WellFormed`: each of these lines has a name, and no two of a suite have the same;
* **`parseLines_eq_ok_iff`**, `result_load_eq_ok_iff`: one suite;
* `display_injective`, `nodup_display`: the names of all packages are written differently;
* **`loadAll_line_by_line`**: many suites.
-/

namespace QuestCheck

open Procedure Surroundings

/-! ## Lists side by side -/

section Forall₂

variable {α β γ : Type} {R : α → β → Prop}

theorem forall₂_exists_iff {S : β → γ → Prop} {xs : List α} {zs : List γ} :
    List.Forall₂ (fun x z => ∃ y, R x y ∧ S y z) xs zs ↔
      ∃ ys, List.Forall₂ R xs ys ∧ List.Forall₂ S ys zs := by
  constructor
  · intro h
    induction h with
    | nil => exact ⟨[], .nil, .nil⟩
    | cons hxz _ ih =>
      obtain ⟨y, hxy, hyz⟩ := hxz
      obtain ⟨ys, hxs, hzs⟩ := ih
      exact ⟨y :: ys, .cons hxy hxs, .cons hyz hzs⟩
  · rintro ⟨ys, hxs, hzs⟩
    induction hxs generalizing zs with
    | nil =>
      cases hzs
      exact .nil
    | cons hxy _ ih =>
      cases hzs with
      | cons hyz hzs => exact .cons ⟨_, hxy, hyz⟩ (ih hzs)

theorem exists_forall₂_iff {xs : List α} :
    (∃ zs, List.Forall₂ R xs zs) ↔ ∀ x ∈ xs, ∃ z, R x z := by
  induction xs with
  | nil => exact ⟨fun _ => nofun, fun _ => ⟨[], .nil⟩⟩
  | cons x xs ih =>
    rw [List.forall_mem_cons, ← ih]
    constructor
    · rintro ⟨zs, h⟩
      obtain ⟨z, rest, hz, hrest, rfl⟩ := List.forall₂_cons_left_iff.mp h
      exact ⟨⟨z, hz⟩, rest, hrest⟩
    · rintro ⟨⟨z, hz⟩, zs, h⟩
      exact ⟨z :: zs, .cons hz h⟩

theorem forall₂_append_left_iff {xs ys : List α} {zs : List β} :
    List.Forall₂ R (xs ++ ys) zs ↔
      ∃ as bs, List.Forall₂ R xs as ∧ List.Forall₂ R ys bs ∧ zs = as ++ bs := by
  constructor
  · intro h
    induction xs generalizing zs with
    | nil => exact ⟨[], zs, .nil, h, rfl⟩
    | cons x xs ih =>
      obtain ⟨z, rest, hxz, hrest, rfl⟩ := List.forall₂_cons_left_iff.mp h
      obtain ⟨as, bs, has, hbs, rfl⟩ := ih hrest
      exact ⟨z :: as, bs, .cons hxz has, hbs, rfl⟩
  · rintro ⟨as, bs, has, hbs, rfl⟩
    exact List.rel_append has hbs

theorem forall₂_flatMap_left_iff {P : γ → Prop} {f : γ → List α} {xs : List γ} {zs : List β} :
    (∃ zss, List.Forall₂ (fun x zs => P x ∧ List.Forall₂ R (f x) zs) xs zss ∧ zss.flatten = zs) ↔
      (∀ x ∈ xs, P x) ∧ List.Forall₂ R (xs.flatMap f) zs := by
  induction xs generalizing zs with
  | nil => simp [eq_comm]
  | cons x xs ih =>
    rw [List.forall_mem_cons, List.flatMap_cons, forall₂_append_left_iff]
    constructor
    · rintro ⟨zss, h, rfl⟩
      obtain ⟨as, rest, ⟨hx, has⟩, hrest, rfl⟩ := List.forall₂_cons_left_iff.mp h
      obtain ⟨hxs, hzs⟩ := ih.mp ⟨rest, hrest, rfl⟩
      exact ⟨⟨hx, hxs⟩, as, rest.flatten, has, hzs, rfl⟩
    · rintro ⟨⟨hx, hxs⟩, as, bs, has, hbs, rfl⟩
      obtain ⟨zss, h, rfl⟩ := ih.mpr ⟨hxs, hbs⟩
      exact ⟨as :: zss, .cons ⟨hx, has⟩ h, rfl⟩

end Forall₂

/-! ## Declarations -/

/-- A declaration: a name and the text of an instruction. -/
structure Declaration where
  id : QualifiedName
  text : String

/-- The check of a declaration, on its own. -/
def Declaration.build (d : Declaration) : Procedure Check :=
  match Instruction.parse d.id d.text with
  | .error rejection => .fail rejection.fault
  | .ok i => Check.build i

namespace Suite

variable {package : Option String} {text : String} {line : List Char}

/-- The line is neither blank nor a comment. -/
def Speaks (line : List Char) : Prop := Text.trim line ≠ [] ∧ (Text.trim line).head? ≠ some '#'

instance : DecidablePred Speaks := fun _ => inferInstanceAs (Decidable (_ ∧ _))

/-- What a line declares: the name before its first colon, and the text behind it. -/
def declaration? (package : Option String) (line : List Char) : Option Declaration :=
  (Text.cutAt ':' (Text.trim line)).map fun p =>
    ⟨⟨package, String.ofList (Text.trim p.1)⟩, String.ofList p.2⟩

/-- What some lines declare, in order. -/
def declarationsIn (package : Option String) (lines : List (List Char)) : List Declaration :=
  (lines.filter (Speaks ·)).filterMap (declaration? package)

/-- The names of some declarations are free and differ from one another. -/
def Fresh (taken : List String) (ds : List Declaration) : Prop :=
  (ds.map (·.id.name)).Nodup ∧ ∀ d ∈ ds, d.id.name ∉ taken

/-- Every line that says something has a colon and a name before it, and no name is taken. -/
structure Legible (package : Option String) (taken : List String)
    (lines : List (List Char)) : Prop where
  colon : ∀ line ∈ lines, Speaks line → ':' ∈ line
  name : ∀ d ∈ declarationsIn package lines, Text.isName d.id.name = true
  fresh : Fresh taken (declarationsIn package lines)

theorem fresh_cons_iff {taken : List String} {d : Declaration} {ds : List Declaration} :
    Fresh taken (d :: ds) ↔ d.id.name ∉ taken ∧ Fresh (d.id.name :: taken) ds := by
  unfold Fresh
  rw [List.forall_mem_cons]
  simp only [List.map_cons, List.nodup_cons, List.mem_map, List.mem_cons, not_or, not_exists,
    not_and]
  constructor
  · rintro ⟨⟨hd, hnodup⟩, hfree, htaken⟩
    exact ⟨hfree, hnodup, fun e he => ⟨hd e he, htaken e he⟩⟩
  · rintro ⟨hfree, hnodup, hds⟩
    exact ⟨⟨fun e he => (hds e he).1, hnodup⟩, hfree, fun e he => (hds e he).2⟩

theorem declaration?_eq_none_iff : declaration? package line = none ↔ ':' ∉ line := by
  unfold declaration?
  rw [Option.map_eq_none_iff, Text.cutAt_eq_none_iff, Text.mem_trim_iff (by decide)]

theorem declarationsIn_cons_of_not_speaks (h : ¬ Speaks line) (rest : List (List Char)) :
    declarationsIn package (line :: rest) = declarationsIn package rest := by
  simp [declarationsIn, h]

theorem declarationsIn_cons_of_speaks {d : Declaration} (h : Speaks line)
    (hd : declaration? package line = some d) (rest : List (List Char)) :
    declarationsIn package (line :: rest) = d :: declarationsIn package rest := by
  simp [declarationsIn, h, hd]

theorem legible_nil {taken : List String} : Legible package taken [] :=
  ⟨nofun, nofun, List.nodup_nil, nofun⟩

theorem legible_cons_of_not_speaks {taken : List String} (h : ¬ Speaks line)
    {rest : List (List Char)} :
    Legible package taken (line :: rest) ↔ Legible package taken rest := by
  have hdeclared : declarationsIn package (line :: rest) = declarationsIn package rest :=
    declarationsIn_cons_of_not_speaks h rest
  constructor
  · rintro ⟨hcolon, hname, hfresh⟩
    rw [hdeclared] at hname hfresh
    exact ⟨(List.forall_mem_cons.mp hcolon).2, hname, hfresh⟩
  · rintro ⟨hcolon, hname, hfresh⟩
    refine ⟨List.forall_mem_cons.mpr ⟨fun hspeaks => absurd hspeaks h, hcolon⟩, ?_, ?_⟩
    · rwa [hdeclared]
    · rwa [hdeclared]

theorem legible_cons_of_speaks {taken : List String} {d : Declaration} (h : Speaks line)
    (hd : declaration? package line = some d) {rest : List (List Char)} :
    Legible package taken (line :: rest) ↔
      Text.isName d.id.name = true ∧ d.id.name ∉ taken ∧
        Legible package (d.id.name :: taken) rest := by
  have hdeclared := declarationsIn_cons_of_speaks h hd rest
  constructor
  · rintro ⟨hcolon, hname, hfresh⟩
    rw [hdeclared] at hname hfresh
    obtain ⟨hfree, hfresh⟩ := fresh_cons_iff.mp hfresh
    obtain ⟨hd, hname⟩ := List.forall_mem_cons.mp hname
    exact ⟨hd, hfree, (List.forall_mem_cons.mp hcolon).2, hname, hfresh⟩
  · rintro ⟨hname, hfree, hrest⟩
    have hcolon : ':' ∈ line := by
      by_contra hnot
      rw [declaration?_eq_none_iff.mpr hnot] at hd
      cases hd
    refine ⟨List.forall_mem_cons.mpr ⟨fun _ => hcolon, hrest.colon⟩, ?_, ?_⟩
    · rw [hdeclared]
      exact List.forall_mem_cons.mpr ⟨hname, hrest.name⟩
    · rw [hdeclared]
      exact fresh_cons_iff.mpr ⟨hfree, hrest.fresh⟩

theorem entry_of_not_speaks (h : ¬ Speaks line) : entry line = .ok none := by
  unfold entry
  rw [Speaks, not_and_or, not_not, not_not] at h
  rw [if_pos (by simpa using h)]

theorem entry_of_speaks (h : Speaks line) :
    entry line =
      match declaration? package line with
      | none => .error .noColon
      | some d =>
        if Text.isName d.id.name then .ok (some (d.id.name, d.text))
        else .error (.badLineName d.id.name) := by
  unfold entry declaration?
  rw [if_neg (by simpa [Speaks] using h)]
  cases Text.cutAt ':' (Text.trim line) <;> rfl

/-! ## Reading -/

theorem parseLines_cons_of_speaks {taken : List String} {number : Nat} {rest : List (List Char)}
    {is : List Instruction} {d : Declaration} (h : Speaks line)
    (hd : declaration? package line = some d) :
    parseLines package taken number (line :: rest) = .ok is ↔
      Text.isName d.id.name = true ∧ d.id.name ∉ taken ∧
        ∃ i is', Instruction.parse d.id d.text = .ok i ∧
          parseLines package (d.id.name :: taken) (number + 1) rest = .ok is' ∧ is = i :: is' := by
  have hid : d.id = ⟨package, d.id.name⟩ := by
    obtain ⟨p, -, rfl⟩ := Option.map_eq_some_iff.mp hd
    rfl
  by_cases hname : Text.isName d.id.name = true
  · have hentry : entry line = .ok (some (d.id.name, d.text)) := by
      rw [entry_of_speaks h, hd]
      exact if_pos hname
    rw [parseLines]
    simp only [hentry, ← hid, hname, true_and]
    by_cases hfree : d.id.name ∈ taken
    · simp [hfree]
    · simp only [hfree, not_false_eq_true, true_and]
      cases Instruction.parse d.id d.text with
      | error rejection => simp
      | ok i =>
        cases parseLines package (d.id.name :: taken) (number + 1) rest with
        | error rejection => simp [Except.map]
        | ok is' => simp [Except.map, eq_comm]
  · have hentry : entry line = .error (.badLineName d.id.name) := by
      rw [entry_of_speaks h, hd]
      exact if_neg hname
    rw [parseLines]
    simp [hentry, hname]

theorem not_parseLines_cons_of_no_colon {taken : List String} {number : Nat}
    {rest : List (List Char)} {is : List Instruction} (h : Speaks line)
    (hd : declaration? package line = none) :
    parseLines package taken number (line :: rest) ≠ .ok is := by
  have hentry : entry line = .error .noColon := by
    rw [entry_of_speaks h, hd]
  rw [parseLines]
  simp [hentry]

theorem parseLines_cons_of_not_speaks {taken : List String} {number : Nat} {rest : List (List Char)}
    (h : ¬ Speaks line) :
    parseLines package taken number (line :: rest) =
      parseLines package taken (number + 1) rest := by
  rw [parseLines, entry_of_not_speaks h]

/-- **Lines are read if they are well formed and each of their declarations is.** -/
theorem parseLines_eq_ok_iff {taken : List String} {number : Nat} {lines : List (List Char)}
    {is : List Instruction} :
    parseLines package taken number lines = .ok is ↔
      Legible package taken lines ∧
        List.Forall₂ (fun d i => Instruction.parse d.id d.text = .ok i)
          (declarationsIn package lines) is := by
  induction lines generalizing taken number is with
  | nil =>
    rw [parseLines, Except.ok.injEq, declarationsIn, List.filter_nil, List.filterMap_nil,
      List.forall₂_nil_left_iff, eq_comm]
    exact ⟨fun his => ⟨legible_nil, his⟩, fun h => h.2⟩
  | cons line rest ih =>
    by_cases hspeaks : Speaks line
    · cases hd : declaration? package line with
      | none =>
        refine iff_of_false (not_parseLines_cons_of_no_colon hspeaks hd) fun h => ?_
        exact declaration?_eq_none_iff.mp hd (h.1.colon line List.mem_cons_self hspeaks)
      | some d =>
        rw [parseLines_cons_of_speaks hspeaks hd, legible_cons_of_speaks hspeaks hd,
          declarationsIn_cons_of_speaks hspeaks hd, List.forall₂_cons_left_iff]
        simp only [ih]
        constructor
        · rintro ⟨hname, hfree, i, is', hi, ⟨hrest, his⟩, rfl⟩
          exact ⟨⟨hname, hfree, hrest⟩, i, is', hi, his, rfl⟩
        · rintro ⟨⟨hname, hfree, hrest⟩, i, is', hi, his, rfl⟩
          exact ⟨hname, hfree, i, is', hi, ⟨hrest, his⟩, rfl⟩
    · rw [parseLines_cons_of_not_speaks hspeaks, legible_cons_of_not_speaks hspeaks,
        declarationsIn_cons_of_not_speaks hspeaks, ih]

/-! ## One suite -/

/-- What a suite declares, in the order of its lines. -/
def declarations (package : Option String) (text : String) : List Declaration :=
  declarationsIn package (Text.lines text.toList)

/-- Every line of a suite that says something has a colon and a name before it, and no name stands
twice. -/
structure WellFormed (package : Option String) (text : String) : Prop where
  colon : ∀ line ∈ Text.lines text.toList, Speaks line → ':' ∈ line
  name : ∀ d ∈ declarations package text, Text.isName d.id.name = true
  distinct : ((declarations package text).map (·.id.name)).Nodup

theorem legible_lines_iff :
    Legible package [] (Text.lines text.toList) ↔ WellFormed package text := by
  constructor
  · rintro ⟨hcolon, hname, hdistinct, -⟩
    exact ⟨hcolon, hname, hdistinct⟩
  · rintro ⟨hcolon, hname, hdistinct⟩
    exact ⟨hcolon, hname, hdistinct, fun d _ => List.not_mem_nil⟩

theorem parse_eq_ok_iff {is : List Instruction} :
    parse package text = .ok is ↔
      WellFormed package text ∧
        List.Forall₂ (fun d i => Instruction.parse d.id d.text = .ok i)
          (declarations package text) is := by
  rw [parse, parseLines_eq_ok_iff, legible_lines_iff]
  rfl

variable {s : Surroundings}

theorem result_build_declaration_eq_ok_iff {d : Declaration} {c : Check} :
    s.result d.build = .ok c ↔
      ∃ i, Instruction.parse d.id d.text = .ok i ∧ s.result (Check.build i) = .ok c := by
  unfold Declaration.build
  cases Instruction.parse d.id d.text with
  | error rejection => simp
  | ok i => simp

theorem result_load_eq_ok_iff {checks : List Check} :
    s.result (load package text) = .ok checks ↔
      WellFormed package text ∧
        List.Forall₂ (fun d c => s.result d.build = .ok c) (declarations package text) checks := by
  have hload : s.result (load package text) = .ok checks ↔
      ∃ is, parse package text = .ok is ∧ s.result (is.mapM Check.build) = .ok checks := by
    unfold load
    cases parse package text with
    | error rejection => simp
    | ok is => simp
  simp only [hload, parse_eq_ok_iff, result_mapM_eq_ok_iff, result_build_declaration_eq_ok_iff,
    forall₂_exists_iff, and_assoc, exists_and_left]

/-! ## Many suites -/

/-- What the suites of all packages declare, package by package. -/
def allDeclarations (sources : Dict String) : List Declaration :=
  sources.toList.flatMap fun p => declarations (some p.1) p.2

theorem result_loadAll_eq_ok_iff {sources : Dict String} {checks : List Check} :
    s.result (loadAll sources) = .ok checks ↔
      (∀ p ∈ sources.toList, WellFormed (some p.1) p.2) ∧
        List.Forall₂ (fun d c => s.result d.build = .ok c) (allDeclarations sources) checks := by
  unfold loadAll allDeclarations
  rw [result_bind_eq_ok_iff, ← forall₂_flatMap_left_iff]
  simp only [result_mapM_eq_ok_iff, result_load_eq_ok_iff, pure_eq, result_done, Except.ok.injEq]

/-! ## Names of checks -/

/-- The last `>` of a written name stands in front of the name proper, so that nothing is asked of
the package. -/
theorem display_injective {package package' name name' : String}
    (hname : Text.isName name = true) (hname' : Text.isName name' = true)
    (h : QualifiedName.display ⟨some package, name⟩ =
      QualifiedName.display ⟨some package', name'⟩) : package = package' ∧ name = name' := by
  have hcut : ∀ p n : String, Text.isName n = true →
      Text.cutAt '>' (QualifiedName.display ⟨some p, n⟩).toList.reverse =
        some (n.toList.reverse, p.toList.reverse) := by
    intro p n hn
    have hmark : '>' ∉ n.toList.reverse := fun hmem =>
      QualifiedName.mark_not_mem hn (List.mem_reverse.mp hmem)
    exact Text.cutAt_eq_some_iff.mpr ⟨by simp [QualifiedName.display], hmark⟩
  have hcuts := hcut package name hname
  rw [h, hcut package' name' hname'] at hcuts
  obtain ⟨hn, hp⟩ := Prod.mk.inj (Option.some.inj hcuts)
  exact ⟨(String.toList_inj.mp (List.reverse_injective hp)).symm,
    (String.toList_inj.mp (List.reverse_injective hn)).symm⟩

theorem package_of_mem_declarations {d : Declaration} (h : d ∈ declarations package text) :
    d.id.package = package := by
  obtain ⟨line, -, hd⟩ := List.mem_filterMap.mp h
  obtain ⟨p, -, rfl⟩ := Option.map_eq_some_iff.mp hd
  rfl

theorem display_of_mem_declarations {package : String} {d : Declaration}
    (h : d ∈ declarations (some package) text) :
    d.id.display = QualifiedName.display ⟨some package, d.id.name⟩ := by
  rw [← package_of_mem_declarations h]

theorem nodup_display {sources : Dict String}
    (h : ∀ p ∈ sources.toList, WellFormed (some p.1) p.2) :
    ((allDeclarations sources).map (·.id.display)).Nodup := by
  unfold allDeclarations
  rw [List.map_flatMap, List.nodup_flatMap]
  constructor
  · intro p hp
    have hdistinct := (h p hp).distinct
    rw [List.Nodup, List.pairwise_map] at hdistinct ⊢
    refine hdistinct.imp_of_mem fun {d e} hd he hne hdisplay => hne ?_
    rw [display_of_mem_declarations hd, display_of_mem_declarations he] at hdisplay
    exact (display_injective ((h p hp).name d hd) ((h p hp).name e he) hdisplay).2
  · have hkeys := sources.nodup_keys_toList
    rw [List.Nodup, List.pairwise_map] at hkeys
    refine hkeys.imp_of_mem fun {p q} hp hq hne => ?_
    intro written hwritten hwritten'
    obtain ⟨d, hd, rfl⟩ := List.mem_map.mp hwritten
    obtain ⟨e, he, hdisplay⟩ := List.mem_map.mp hwritten'
    rw [display_of_mem_declarations hd, display_of_mem_declarations he] at hdisplay
    exact hne (display_injective ((h q hq).name e he) ((h p hp).name d hd) hdisplay).1.symm

theorem id_of_result_build {d : Declaration} {c : Check} (h : s.result d.build = .ok c) :
    c.id = d.id := by
  obtain ⟨i, hparse, hbuild⟩ := result_build_declaration_eq_ok_iff.mp h
  obtain ⟨kind, fields, named, -, -, -, rfl⟩ := Instruction.parse_eq_ok_iff.mp hparse
  exact (Check.compiled_of_yields_build (s.yields_of_result hbuild)).id_eq

theorem ids_of_forall₂_build {ds : List Declaration} {checks : List Check}
    (h : List.Forall₂ (fun d c => s.result d.build = .ok c) ds checks) :
    checks.map (·.id) = ds.map (·.id) := by
  induction h with
  | nil => rfl
  | cons hd _ ih => rw [List.map_cons, List.map_cons, ih, id_of_result_build hd]

theorem ascending_packages (sources : Dict String) :
    (sources.toList.map fun p => Text.bytes p.1).Pairwise (· < ·) := by
  rw [List.pairwise_map]
  exact sources.ordered_keys_toList.imp Text.bytes_lt_of_compare

/-- **Suites load line by line**: exactly if all lines are well formed, no name stands twice in a
suite and every line loads on its own; and they have the checks of their lines, in order. -/
theorem loadAll_line_by_line (s : Surroundings) (sources : Dict String) (log : Log) :
    let o := s.run (loadAll sources) log
    ((∃ checks, o.result = .ok checks) ↔
        (∀ package text, sources[package]? = some text → WellFormed (some package) text) ∧
          ∀ d ∈ allDeclarations sources, ∃ c, ∀ log', (s.run d.build log').result = .ok c) ∧
      (∀ checks, o.result = .ok checks →
        List.Forall₂ (fun d c => ∀ log', (s.run d.build log').result = .ok c)
            (allDeclarations sources) checks ∧
          checks.map (·.id) = (allDeclarations sources).map (·.id) ∧
          (checks.map (·.id.display)).Nodup) ∧
      (sources.toList.map fun p => Text.bytes p.1).Pairwise (· < ·) := by
  intro o
  have hresult : o.result = s.result (loadAll sources) := s.result_run _ log
  have hsuites : (∀ package text, sources[package]? = some text → WellFormed (some package) text) ↔
      ∀ p ∈ sources.toList, WellFormed (some p.1) p.2 := by
    simp only [Prod.forall, Std.ExtTreeMap.mem_toList_iff_getElem?_eq_some]
  have hlog : Nonempty Log := ⟨.empty⟩
  simp only [hresult, hsuites, s.result_run, forall_const]
  refine ⟨?_, ?_, ascending_packages sources⟩
  · simp only [result_loadAll_eq_ok_iff, exists_and_left, exists_forall₂_iff]
  · intro checks h
    obtain ⟨hwell, hbuild⟩ := result_loadAll_eq_ok_iff.mp h
    have hids := ids_of_forall₂_build hbuild
    have hdisplay : checks.map (·.id.display) = (allDeclarations sources).map (·.id.display) := by
      have h := congrArg (List.map QualifiedName.display) hids
      rwa [List.map_map, List.map_map] at h
    refine ⟨hbuild, hids, ?_⟩
    rw [hdisplay]
    exact nodup_display hwell

end Suite

end QuestCheck
