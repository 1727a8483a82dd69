import QuestCheck.Proofs.Meaning
import QuestCheck.Suite.Load

/-!
# Loaded checks

* `Suite.compiled_of_yields_load`, `compiled_of_yields_loadAll`: loaded checks are compiled ones;
* `Suite.declared`: the names that a suite declares;
* **`ids_of_yields_loadAll`**: the loaded checks are the declared ones, package by package.
-/

namespace QuestCheck

open Procedure

theorem Check.compiled_of_yields_build {i : Instruction} {c : Check} (h : (build i).Yields c) :
    Compiled i c := by
  obtain ⟨c', hc, h⟩ := yields_bind_iff.mp h
  obtain ⟨⟨⟩, -, h⟩ := yields_bind_iff.mp h
  obtain rfl := yields_done_iff.mp h
  exact compiled_of_yields hc

namespace Suite

theorem compiled_of_yields_load {package : Option String} {text : String} {checks : List Check}
    (h : (load package text).Yields checks) :
    ∃ is, parse package text = .ok is ∧ List.Forall₂ Check.Compiled is checks := by
  unfold load at h
  split at h
  · exact absurd h not_yields_fail
  · next is hparse =>
    refine ⟨is, hparse, (yields_mapM_iff.mp h).imp ?_⟩
    intro i c hc
    exact Check.compiled_of_yields_build hc

theorem compiled_of_yields_loadAll {sources : Dict String} {checks : List Check}
    (h : (loadAll sources).Yields checks) {c : Check} (hc : c ∈ checks) :
    ∃ i, Check.Compiled i c := by
  obtain ⟨loaded, hloaded, h⟩ := yields_bind_iff.mp h
  obtain rfl := yields_done_iff.mp h
  obtain ⟨suite, hsuite, hc⟩ := List.mem_flatten.mp hc
  obtain ⟨source, -, hsource⟩ := exists_mem_of_forall₂ (yields_mapM_iff.mp hloaded) hsuite
  obtain ⟨is, -, his⟩ := compiled_of_yields_load hsource
  obtain ⟨i, -, hi⟩ := exists_mem_of_forall₂ his hc
  exact ⟨i, hi⟩

/-- The names that the suite of a package declares, in order. -/
def declared (source : String × String) : List QualifiedName :=
  match parse (some source.1) source.2 with
  | .ok is => is.map (·.id)
  | .error _ => []

theorem ids_of_yields_load {source : String × String} {checks : List Check}
    (h : (load (some source.1) source.2).Yields checks) :
    checks.map (·.id) = declared source := by
  obtain ⟨is, hparse, his⟩ := compiled_of_yields_load h
  unfold declared
  simp only [hparse]
  clear h hparse
  induction his with
  | nil => rfl
  | cons hi hrest ih => rw [List.map_cons, List.map_cons, ih, hi.id_eq]

/-- **The loaded checks are the declared ones**, package by package. -/
theorem ids_of_yields_loadAll {sources : Dict String} {checks : List Check}
    (h : (loadAll sources).Yields checks) :
    checks.map (·.id) = sources.toList.flatMap declared := by
  obtain ⟨loaded, hloaded, hdone⟩ := yields_bind_iff.mp h
  obtain rfl := yields_done_iff.mp hdone
  have hall := yields_mapM_iff.mp hloaded
  generalize sources.toList = pairs at hall
  clear h hdone hloaded
  induction hall with
  | nil => rfl
  | cons hsource hrest ih =>
    rw [List.flatten_cons, List.map_append, ih, ids_of_yields_load hsource, List.flatMap_cons]

end Suite

end QuestCheck
