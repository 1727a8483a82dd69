import Mathlib.Data.List.Induction
import Mathlib.Data.List.Nodup
import QuestCheck.Command.Sources
import QuestCheck.Proofs.Histories
import QuestCheck.Proofs.Loading
import QuestCheck.Proofs.Surroundings

/-!
# The packages of suites

A directory is read into a dictionary of suites, by their packages. The package of a file is its
path with dots between the segments, and a segment may have dots of its own; of two files with one
package only the later one is kept.

* `Dict.getElem?_ofPairs`, `Dict.toList_ofPairs_perm_iff`: which pairs a dictionary keeps;
* `intercalate_eq_iff`, `packages_nodup_iff`: packages are the same exactly if the pieces of the
  paths between slashes and dots are;
* `suitePackage?_inj`: without dots in names, different paths have different packages;
* `foldlM_addSuite`, `foldlM_addSuite_of_unreadable`: the loop over the files of a directory, up to
  the first suite that cannot be read;
* `suiteFiles`, `readSuites_eq`: reading a directory whose suites can all be read;
* **`readSuites_keeps_all_iff`**: no suite is lost exactly if the packages are different.
-/

namespace QuestCheck

open Procedure

/-! ## Dictionaries of pairs -/

namespace Dict

variable {α : Type}

theorem ofPairs_concat (pairs : List (String × α)) (p : String × α) :
    ofPairs (pairs ++ [p]) = (ofPairs pairs).insert p.1 p.2 := by
  unfold ofPairs
  rw [Std.ExtTreeMap.ofList_eq_foldl, Std.ExtTreeMap.ofList_eq_foldl, List.foldl_append]
  rfl

/-- **Of the pairs with one key the last one counts.** -/
theorem getElem?_ofPairs (pairs : List (String × α)) (k : String) :
    (ofPairs pairs)[k]? = pairs.reverse.lookup k := by
  have hinsert : ∀ (d : Dict α) (p : String × α) (l : String),
      (d.insert p.1 p.2)[l]? = if l = p.1 then some p.2 else d[l]? := by
    intro d p l
    by_cases h : l = p.1
    · rw [if_pos h, h, getElem?_insert_self]
    · rw [if_neg h, getElem?_insert_of_ne _ (Ne.symm h)]
  rw [ofPairs, Std.ExtTreeMap.ofList_eq_foldl]
  exact (@held_foldl String α (Dict α) _ _ (fun d l => d[l]?) hinsert ∅ pairs k).trans
    (Option.or_none ..)

theorem mem_of_getElem?_ofPairs {pairs : List (String × α)} {k : String} {v : α}
    (h : (ofPairs pairs)[k]? = some v) : (k, v) ∈ pairs := by
  rw [getElem?_ofPairs] at h
  exact mem_of_lastWritten h

/-- **A dictionary keeps all pairs exactly if their keys are different.** -/
theorem toList_ofPairs_perm_iff (pairs : List (String × α)) :
    (ofPairs pairs).toList.Perm pairs ↔ (pairs.map Prod.fst).Nodup := by
  constructor
  · intro h
    exact (h.map Prod.fst).nodup_iff.mp (nodup_keys_toList _)
  · intro h
    have hdistinct : pairs.Pairwise fun a b => ¬ compare a.1 b.1 = .eq :=
      (List.pairwise_map.mp h).imp fun hne heq => hne (Std.LawfulEqOrd.eq_of_compare heq)
    refine (List.perm_ext_iff_of_nodup (.of_map _ (nodup_keys_toList _)) (.of_map _ h)).mpr ?_
    rintro ⟨k, v⟩
    rw [Std.ExtTreeMap.mem_toList_iff_getElem?_eq_some]
    exact ⟨mem_of_getElem?_ofPairs,
      Std.ExtTreeMap.getElem?_ofList_of_mem Std.compare_self hdistinct⟩

end Dict

namespace Command

/-! ## Packages of paths -/

/-- The pieces between the dots of some segments. -/
def cutAtDots (segments : List String) : List (List Char) :=
  segments.flatMap fun s => s.toList.splitOn '.'

theorem splitOn_intercalate {segments : List String} (h : segments ≠ []) :
    (".".intercalate segments).toList.splitOn '.' = cutAtDots segments := by
  unfold cutAtDots
  induction segments with
  | nil => exact absurd rfl h
  | cons s segments ih =>
    cases segments with
    | nil => rw [String.intercalate_singleton, List.flatMap_cons, List.flatMap_nil, List.append_nil]
    | cons s' segments =>
      have hrest := ih (List.cons_ne_nil s' segments)
      have hdot : ".".toList = ['.'] := rfl
      rw [String.intercalate_cons_cons, String.toList_append, String.toList_append,
        List.append_assoc, hdot, List.singleton_append, List.splitOn_append_cons_self, hrest]
      rfl

/-- **Segments are joined to one text exactly if they have the same pieces**: dots between and
within them look alike. -/
theorem intercalate_eq_iff {xs ys : List String} (hx : xs ≠ []) (hy : ys ≠ []) :
    ".".intercalate xs = ".".intercalate ys ↔ cutAtDots xs = cutAtDots ys := by
  rw [← splitOn_intercalate hx, ← splitOn_intercalate hy]
  constructor
  · intro h
    rw [h]
  · intro h
    have hjoined := congrArg (['.'].intercalate ·) h
    simp only [List.intercalate_splitOn] at hjoined
    exact String.toList_inj.mp hjoined

/-- There is no dot in the text. -/
def Dotless (s : String) : Prop := '.' ∉ s.toList

theorem cutAtDots_of_dotless {segments : List String} (h : ∀ s ∈ segments, Dotless s) :
    cutAtDots segments = segments.map String.toList := by
  unfold cutAtDots
  induction segments with
  | nil => rfl
  | cons s segments ih =>
    obtain ⟨hs, hrest⟩ := List.forall_mem_cons.mp h
    rw [List.flatMap_cons, ih hrest, List.splitOn_eq_singleton hs]
    rfl

theorem suiteStem?_eq_some_iff {name stem : String} :
    suiteStem? name = some stem ↔ name = stem ++ ".quest" ∧ stem ≠ "" := by
  unfold suiteStem?
  rw [Option.ite_none_right_eq_some, Option.some.injEq]
  have htake : ∀ cs : List Char,
      (cs ++ suiteEnding).take ((cs ++ suiteEnding).length - suiteEnding.length) = cs := by
    intro cs
    rw [List.length_append, Nat.add_sub_cancel, List.take_left]
  constructor
  · rintro ⟨⟨⟨cs, hcs⟩, hlength⟩, rfl⟩
    rw [← hcs, htake]
    refine ⟨?_, ?_⟩
    · rw [← String.toList_inj, String.toList_append, String.toList_ofList, ← hcs]
      rfl
    · intro hempty
      have hnil : cs = [] := by simpa using congrArg String.toList hempty
      rw [← hcs, hnil] at hlength
      exact absurd hlength (Nat.lt_irrefl _)
  · rintro ⟨rfl, hstem⟩
    have hname : (stem ++ ".quest").toList = stem.toList ++ suiteEnding := String.toList_append
    rw [hname, htake, String.ofList_toList]
    refine ⟨⟨List.suffix_append _ _, ?_⟩, rfl⟩
    have hlength : 0 < stem.toList.length := by
      rw [List.length_pos_iff]
      simpa using hstem
    rw [List.length_append]
    omega

theorem suitePackage?_eq_some_iff {path : List String} {package : String} :
    suitePackage? path = some package ↔
      ∃ dirs stem, path = dirs ++ [stem ++ ".quest"] ∧ stem ≠ "" ∧
        package = ".".intercalate (dirs ++ [lastSegment stem]) := by
  unfold suitePackage?
  constructor
  · intro h
    obtain ⟨name, hname, hrest⟩ := Option.bind_eq_some_iff.mp h
    obtain ⟨stem, hstem, hdone⟩ := Option.bind_eq_some_iff.mp hrest
    obtain ⟨rfl, hne⟩ := suiteStem?_eq_some_iff.mp hstem
    obtain rfl := Option.some.inj hdone
    exact ⟨path.dropLast, stem, (List.dropLast_append_getLast? _ hname).symm, hne, rfl⟩
  · rintro ⟨dirs, stem, rfl, hne, rfl⟩
    rw [List.getLast?_concat, List.dropLast_concat]
    simp only [Option.bind_eq_bind, Option.bind_some, suiteStem?_eq_some_iff.mpr ⟨rfl, hne⟩]
    rfl

/-- The segments between which the package of a suite's file has its dots. -/
def segments? (path : List String) : Option (List String) := do
  let stem ← suiteStem? (← path.getLast?)
  return path.dropLast ++ [lastSegment stem]

theorem suitePackage?_eq_map (path : List String) :
    suitePackage? path = (segments? path).map ".".intercalate := by
  unfold suitePackage? segments?
  cases path.getLast? with
  | none => rfl
  | some name => cases hstem : suiteStem? name <;> simp [hstem]

theorem segments?_ne_nil {path segments : List String} (h : segments? path = some segments) :
    segments ≠ [] := by
  obtain ⟨name, -, hrest⟩ := Option.bind_eq_some_iff.mp h
  obtain ⟨stem, -, hdone⟩ := Option.bind_eq_some_iff.mp hrest
  obtain rfl := Option.some.inj hdone
  exact List.concat_ne_nil _ _

/-- There is no dot in the path of a suite's file but the one of the ending. -/
def OneDot (path : List String) : Prop :=
  (∀ dir ∈ path.dropLast, Dotless dir) ∧
    ∀ stem, path.getLast? = some (stem ++ ".quest") → Dotless stem

theorem lastSegment_of_dotless {stem : String} (h : Dotless stem) : lastSegment stem = stem := by
  unfold lastSegment
  rw [if_neg]
  rintro rfl
  exact h (by decide)

theorem package_of_oneDot {path : List String} {package : String} (hpath : OneDot path)
    (h : suitePackage? path = some package) :
    ∃ dirs stem, path = dirs ++ [stem ++ ".quest"] ∧
      (∀ segment ∈ dirs ++ [stem], Dotless segment) ∧
      package = ".".intercalate (dirs ++ [stem]) := by
  obtain ⟨dirs, stem, rfl, -, rfl⟩ := suitePackage?_eq_some_iff.mp h
  have hstem : Dotless stem := hpath.2 stem (List.getLast?_concat ..)
  have hdirs : ∀ dir ∈ dirs, Dotless dir := by
    have hdirs := hpath.1
    rwa [List.dropLast_concat] at hdirs
  refine ⟨dirs, stem, rfl, ?_, by rw [lastSegment_of_dotless hstem]⟩
  intro segment hsegment
  rcases List.mem_append.mp hsegment with hsegment | hsegment
  · exact hdirs segment hsegment
  · rwa [List.mem_singleton.mp hsegment]

/-- **Different paths have different packages** if there are no further dots in them. -/
theorem suitePackage?_inj {p q : List String} {package : String} (hp : OneDot p) (hq : OneDot q)
    (h₁ : suitePackage? p = some package) (h₂ : suitePackage? q = some package) : p = q := by
  obtain ⟨dirs₁, stem₁, rfl, hd₁, rfl⟩ := package_of_oneDot hp h₁
  obtain ⟨dirs₂, stem₂, rfl, hd₂, heq⟩ := package_of_oneDot hq h₂
  have hpieces := (intercalate_eq_iff (by simp) (by simp)).mp heq
  rw [cutAtDots_of_dotless hd₁, cutAtDots_of_dotless hd₂] at hpieces
  have hsegments : dirs₁ ++ [stem₁] = dirs₂ ++ [stem₂] :=
    List.map_injective_iff.mpr (fun s t hst => String.toList_inj.mp hst) hpieces
  obtain ⟨rfl, hstem⟩ := List.append_inj' hsegments rfl
  obtain rfl := List.singleton_inj.mp hstem
  rfl

/-! ## Reading a directory -/

/-- A suite that is found: the package of a file and the text that is read. -/
def suiteOf? (root : String) (f : FileTree.Found) : Option (String × String) := do
  let package ← suitePackage? f.1
  let content ← FileTree.readable? root f
  let text ← (FileTree.decode content).toOption
  return (package, text)

/-- The suites below a directory, in the order in which they are read. -/
def suiteFiles (root : String) (t : FileTree) : List (String × String) :=
  t.files.filterMap (suiteOf? root)

/-- The packages of the suites' files below a directory. -/
def packages (t : FileTree) : List String := t.files.filterMap fun f => suitePackage? f.1

/-- Every suite's file below a directory can be read as a text. -/
def AllReadable (root : String) (t : FileTree) : Prop :=
  ∀ f ∈ t.files, (suitePackage? f.1).isSome → (suiteOf? root f).isSome

theorem suiteOf?_eq_some_iff {root : String} {f : FileTree.Found} {package text : String} :
    suiteOf? root f = some (package, text) ↔
      suitePackage? f.1 = some package ∧ ∃ content, FileTree.readable? root f = some content ∧
        FileTree.decode content = .ok text := by
  unfold suiteOf?
  constructor
  · intro h
    obtain ⟨package', hpackage, hrest⟩ := Option.bind_eq_some_iff.mp h
    obtain ⟨content, hcontent, hrest⟩ := Option.bind_eq_some_iff.mp hrest
    obtain ⟨text', htext, hdone⟩ := Option.bind_eq_some_iff.mp hrest
    obtain ⟨rfl, rfl⟩ := Prod.mk.inj (Option.some.inj hdone)
    refine ⟨hpackage, content, hcontent, ?_⟩
    cases hdecode : FileTree.decode content with
    | error cause =>
      rw [hdecode] at htext
      cases htext
    | ok text'' =>
      rw [hdecode] at htext
      rw [Option.some.inj htext]
  · rintro ⟨hpackage, content, hcontent, htext⟩
    simp only [hpackage, hcontent, htext, Option.bind_eq_bind, Option.bind_some]
    rfl

theorem suitePackage?_of_suiteOf? {root : String} {f : FileTree.Found} {p : String × String}
    (h : suiteOf? root f = some p) : suitePackage? f.1 = some p.1 :=
  (suiteOf?_eq_some_iff.mp h).1

/-- The file is a suite's, and this is what is read of it. -/
def Reached (root : String) (f : FileTree.Found) (content : Except FileError ByteArray) : Prop :=
  (suitePackage? f.1).isSome ∧ FileTree.readable? root f = some content

/-- What is read of a suite's file is no text. -/
def Unreadable (root : String) (f : FileTree.Found) (cause : FileError) : Prop :=
  ∃ content, Reached root f content ∧ FileTree.decode content = .error cause

theorem suiteOf?_eq_none_of_unreadable {root : String} {f : FileTree.Found} {cause : FileError}
    (h : Unreadable root f cause) : suiteOf? root f = none := by
  obtain ⟨content, ⟨-, hcontent⟩, hcause⟩ := h
  cases hfound : suiteOf? root f with
  | none => rfl
  | some p =>
    obtain ⟨-, content', hcontent', htext⟩ := suiteOf?_eq_some_iff.mp hfound
    obtain rfl := Option.some.inj (hcontent.symm.trans hcontent')
    cases hcause.symm.trans htext

theorem isSome_suiteOf?_of_reached {root : String} {f : FileTree.Found}
    {content : Except FileError ByteArray} (hf : ∀ cause, ¬ Unreadable root f cause)
    (h : Reached root f content) : (suiteOf? root f).isSome := by
  obtain ⟨package, hpackage⟩ := Option.isSome_iff_exists.mp h.1
  cases hdecode : FileTree.decode content with
  | error cause => exact absurd ⟨content, h, hdecode⟩ (hf cause)
  | ok text =>
    rw [suiteOf?_eq_some_iff.mpr ⟨hpackage, content, h.2, hdecode⟩]
    rfl

theorem addSuite_of_not_unreadable {root : String} {f : FileTree.Found}
    (hf : ∀ cause, ¬ Unreadable root f cause) (pairs : List (String × String)) :
    addSuite root (Dict.ofPairs pairs) f =
      .ok (Dict.ofPairs (pairs ++ (suiteOf? root f).toList)) := by
  unfold addSuite
  cases hfound : suiteOf? root f with
  | some p =>
    obtain ⟨hpackage, content, hcontent, htext⟩ := suiteOf?_eq_some_iff.mp hfound
    simp only [hpackage, hcontent, htext]
    rw [Option.toList_some, Dict.ofPairs_concat]
  | none =>
    rw [Option.toList_none, List.append_nil]
    cases hpackage : suitePackage? f.1 with
    | none => rfl
    | some package =>
      cases hcontent : FileTree.readable? root f with
      | none => rfl
      | some content =>
        have hreached : Reached root f content := ⟨by rw [hpackage]; rfl, hcontent⟩
        have hsome := isSome_suiteOf?_of_reached hf hreached
        rw [hfound] at hsome
        exact absurd hsome Bool.false_ne_true

/-- The loop over files none of which is unreadable: every suite that is found is added. -/
theorem foldlM_addSuite {root : String} {fs : List FileTree.Found}
    (hfs : ∀ f ∈ fs, ∀ cause, ¬ Unreadable root f cause) (pairs : List (String × String)) :
    fs.foldlM (addSuite root) (Dict.ofPairs pairs) =
      .ok (Dict.ofPairs (pairs ++ fs.filterMap (suiteOf? root))) := by
  induction fs generalizing pairs with
  | nil => rw [List.filterMap_nil, List.append_nil]; rfl
  | cons f fs ih =>
    obtain ⟨hf, hrest⟩ := List.forall_mem_cons.mp hfs
    rw [List.foldlM_cons, addSuite_of_not_unreadable hf]
    refine (ih hrest _).trans ?_
    congr 2
    rw [List.append_assoc, List.filterMap_cons]
    cases suiteOf? root f <;> rfl

theorem map_fst_suiteFiles {root : String} {t : FileTree} (ht : AllReadable root t) :
    (suiteFiles root t).map Prod.fst = packages t := by
  unfold suiteFiles packages
  rw [List.map_filterMap]
  refine List.filterMap_congr fun f hf => ?_
  cases hfound : suiteOf? root f with
  | some p => exact (suitePackage?_of_suiteOf? hfound).symm
  | none =>
    have hpackage := mt (ht f hf)
    rw [hfound] at hpackage
    exact (Option.not_isSome_iff_eq_none.mp (hpackage Bool.false_ne_true)).symm

theorem readSuites_of_not_unreadable {files : Files} {root : String}
    {entries : List (String × FileTree)} (hroot : files root = .ok (.directory entries))
    (hread : ∀ f ∈ (FileTree.directory entries).files, ∀ cause, ¬ Unreadable root f cause) :
    readSuites files root =
      if suiteFiles root (.directory entries) = [] then .error (.noSuites root)
      else .ok (Dict.ofPairs (suiteFiles root (.directory entries))) := by
  have hempty : (Dict.ofPairs (suiteFiles root (.directory entries))).isEmpty = true ↔
      suiteFiles root (.directory entries) = [] := by
    rw [Std.ExtTreeMap.isEmpty_iff]
    exact Std.ExtTreeMap.ofList_eq_empty_iff
  have hfold := foldlM_addSuite hread []
  unfold readSuites
  rw [hroot]
  show (FileTree.files _).foldlM (addSuite root) (Dict.ofPairs []) >>= _ = _
  rw [hfold]
  show (if (Dict.ofPairs (suiteFiles root (.directory entries))).isEmpty = true then _ else _) = _
  simp only [hempty]
  rfl

theorem readSuites_eq {files : Files} {root : String} {entries : List (String × FileTree)}
    (hroot : files root = .ok (.directory entries))
    (hread : AllReadable root (.directory entries))
    (hsome : packages (.directory entries) ≠ []) :
    readSuites files root = .ok (Dict.ofPairs (suiteFiles root (.directory entries))) := by
  have hnot : ∀ f ∈ (FileTree.directory entries).files, ∀ cause, ¬ Unreadable root f cause := by
    intro f hf cause hunreadable
    obtain ⟨content, hreached, -⟩ := id hunreadable
    have hfound := hread f hf hreached.1
    rw [suiteOf?_eq_none_of_unreadable hunreadable] at hfound
    exact absurd hfound Bool.false_ne_true
  rw [readSuites_of_not_unreadable hroot hnot, if_neg]
  intro hempty
  rw [← map_fst_suiteFiles hread, hempty] at hsome
  exact hsome rfl

/-- The segments of the suites' files below a directory. -/
def segments (t : FileTree) : List (List String) := t.files.filterMap fun f => segments? f.1

/-- **The packages are different exactly if the pieces are**, cut at slashes and at dots alike. -/
theorem packages_nodup_iff (t : FileTree) :
    (packages t).Nodup ↔ ((segments t).map cutAtDots).Nodup := by
  have hmap : packages t = (segments t).map ".".intercalate := by
    unfold packages segments
    rw [List.map_filterMap]
    simp only [suitePackage?_eq_map]
  have hne : ∀ xs ∈ segments t, xs ≠ [] := by
    intro xs hxs
    obtain ⟨f, -, hf⟩ := List.mem_filterMap.mp hxs
    exact segments?_ne_nil hf
  rw [hmap, List.Nodup, List.Nodup, List.pairwise_map, List.pairwise_map]
  refine List.Pairwise.iff_of_mem ?_
  intro xs ys hx hy
  exact not_congr (intercalate_eq_iff (hne xs hx) (hne ys hy))

/-- **The packages are different** if the paths are and have no further dots. -/
theorem packages_nodup_of_oneDot {t : FileTree} (hpaths : (t.files.map Prod.fst).Nodup)
    (hdot : ∀ f ∈ t.files, (suitePackage? f.1).isSome → OneDot f.1) : (packages t).Nodup := by
  unfold packages
  rw [List.Nodup, List.pairwise_filterMap]
  refine (List.pairwise_map.mp hpaths).imp_of_mem ?_
  rintro f g hf hg hne package hp _ hq rfl
  exact hne (suitePackage?_inj (hdot f hf (by rw [hp]; rfl)) (hdot g hg (by rw [hq]; rfl)) hp hq)

/-- **No suite is lost exactly if the packages are different**, that is, if no two paths have the
same pieces between slashes and dots. Of several suites with one package the last one stands. -/
theorem readSuites_keeps_all_iff {files : Files} {root : String}
    {entries : List (String × FileTree)} (hroot : files root = .ok (.directory entries))
    (hread : AllReadable root (.directory entries))
    (hsome : packages (.directory entries) ≠ []) :
    let t := FileTree.directory entries
    ∃ suites, readSuites files root = .ok suites ∧
      (∀ package, suites[package]? = (suiteFiles root t).reverse.lookup package) ∧
      (suites.toList.Perm (suiteFiles root t) ↔ (packages t).Nodup) ∧
      ((packages t).Nodup ↔ ((segments t).map cutAtDots).Nodup) ∧
      ((t.files.map Prod.fst).Nodup →
        (∀ f ∈ t.files, (suitePackage? f.1).isSome → OneDot f.1) → (packages t).Nodup) ∧
      ((packages t).Nodup → ∀ (s : Surroundings) (checks : List Check),
        s.result (Suite.loadAll suites) = .ok checks →
          (checks.map (·.id)).Perm ((suiteFiles root t).flatMap Suite.declared)) := by
  intro t
  have hperm : (Dict.ofPairs (suiteFiles root t)).toList.Perm (suiteFiles root t) ↔
      (packages t).Nodup := by
    rw [Dict.toList_ofPairs_perm_iff, map_fst_suiteFiles hread]
  refine ⟨Dict.ofPairs (suiteFiles root t), readSuites_eq hroot hread hsome,
    Dict.getElem?_ofPairs _, hperm, packages_nodup_iff t, packages_nodup_of_oneDot, ?_⟩
  intro hnodup s checks hload
  rw [Suite.ids_of_yields_loadAll (s.yields_of_result hload)]
  exact (hperm.mpr hnodup).flatMap_right _

/-! ## Small directories -/

theorem branches_eq_map (entries : List (String × FileTree)) :
    FileTree.branches entries = entries.map fun e => (e.1, e.2.files) := by
  induction entries with
  | nil => rw [FileTree.branches, List.map_nil]
  | cons e entries ih => rw [FileTree.branches, ih, List.map_cons]

theorem files_directory_of_pairwise {entries : List (String × FileTree)}
    (h : entries.Pairwise fun a b => (compare a.1 b.1).isLE) :
    (FileTree.directory entries).files =
      entries.flatMap fun e => e.2.files.map fun f => (e.1 :: f.1, f.2) := by
  rw [FileTree.files, branches_eq_map, List.mergeSort_of_pairwise (List.pairwise_map.mpr h),
    List.flatMap_map]

theorem files_pair (dir name file : String) (c₁ c₂ : Except FileError ByteArray)
    (h : (compare dir file).isLE) :
    (FileTree.directory [(dir, .directory [(name, .file c₁)]), (file, .file c₂)]).files =
      [([dir, name], c₁), ([file], c₂)] := by
  rw [files_directory_of_pairwise (by simpa using h)]
  simp [FileTree.files, branches_eq_map]

/-- A directory that is read as a whole. -/
theorem readSuites_keeps_all_iff_town :
    let t : FileTree := .directory
      [("main", .directory [("gold.quest", .file (.ok "t1: test a\n".toByteArray))]),
        ("town.quest", .file (.ok "t2: test b\n".toByteArray))]
    ∃ suites, readSuites (fun _ => .ok t) "scripts" = .ok suites ∧
      suites.toList.Perm (suiteFiles "scripts" t) := by
  intro t
  have hfiles : t.files = [(["main", "gold.quest"], .ok "t1: test a\n".toByteArray),
      (["town.quest"], .ok "t2: test b\n".toByteArray)] := by
    exact files_pair _ _ _ _ _ (by decide)
  have hpackages : packages t = ["main.gold", "town"] := by
    unfold packages
    rw [hfiles]
    decide
  have hread : AllReadable "scripts" t := by
    unfold AllReadable
    rw [hfiles]
    decide
  obtain ⟨suites, hsuites, -, hperm, -, -, -⟩ :=
    @readSuites_keeps_all_iff (fun _ => .ok t) "scripts" _ rfl hread (by rw [hpackages]; decide)
  refine ⟨suites, hsuites, hperm.mpr ?_⟩
  rw [hpackages]
  decide

/-- **Two files with one package**: the suite that is read first is lost. -/
theorem readSuites_loses_suite :
    let t : FileTree := .directory
      [("a", .directory [("b.quest", .file (.ok "t2: test c independent\n".toByteArray))]),
        ("a.b.quest", .file (.ok "t1: test c independent\n".toByteArray))]
    AllReadable "scripts" t ∧
      suiteFiles "scripts" t =
        [("a.b", "t2: test c independent\n"), ("a.b", "t1: test c independent\n")] ∧
      ∃ suites, readSuites (fun _ => .ok t) "scripts" = .ok suites ∧
        suites.toList = [("a.b", "t1: test c independent\n")] := by
  intro t
  have hfiles : t.files = [(["a", "b.quest"], .ok "t2: test c independent\n".toByteArray),
      (["a.b.quest"], .ok "t1: test c independent\n".toByteArray)] := by
    exact files_pair _ _ _ _ _ (by decide)
  have hpackages : packages t = ["a.b", "a.b"] := by
    unfold packages
    rw [hfiles]
    decide
  have hread : AllReadable "scripts" t := by
    unfold AllReadable
    rw [hfiles]
    decide
  have hfound : suiteFiles "scripts" t =
      [("a.b", "t2: test c independent\n"), ("a.b", "t1: test c independent\n")] := by
    unfold suiteFiles
    rw [hfiles]
    decide
  refine ⟨hread, hfound, _, @readSuites_eq (fun _ => .ok t) "scripts" _ rfl hread ?_, ?_⟩
  · rw [hpackages]
    decide
  · rw [hfound]
    decide

end Command

end QuestCheck
