import Std.Data.ExtTreeMap

/-!
# Dictionaries

Finite maps from texts, equal as soon as they hold the same values, and listed in the order of
their keys by code points.

* `Dict`; `Dict.ofPairs`: a list of pairs, of which a later one replaces an earlier one of the same
  key;
* `getElem?_insert_self`, `getElem?_insert_of_ne`, `mem_insert_iff`: what a write changes;
* `any_eq_true_iff`: a test that some entry passes;
* **`ofPairs_toList`**: a dictionary is made of the pairs that it lists.
-/

namespace QuestCheck

/-- A finite map from texts, in the order of its keys. -/
abbrev Dict (α : Type) : Type := Std.ExtTreeMap String α

namespace Dict

variable {α : Type}

/-- The map of a list of pairs, the last of those with the same key counting. -/
def ofPairs (pairs : List (String × α)) : Dict α := Std.ExtTreeMap.ofList pairs

theorem getElem?_insert_self (d : Dict α) (k : String) (v : α) : (d.insert k v)[k]? = some v := by
  simp

theorem getElem?_insert_of_ne (d : Dict α) {k l : String} (h : k ≠ l) (v : α) :
    (d.insert k v)[l]? = d[l]? := by
  rw [Std.ExtTreeMap.getElem?_insert, if_neg]
  simpa using h

theorem getElem?_eq_none_iff {d : Dict α} {k : String} : d[k]? = none ↔ k ∉ d := by
  rw [Std.ExtTreeMap.mem_iff_isSome_getElem?]
  cases d[k]? <;> simp

theorem mem_iff_exists {d : Dict α} {k : String} : k ∈ d ↔ ∃ v, d[k]? = some v := by
  rw [Std.ExtTreeMap.mem_iff_isSome_getElem?, Option.isSome_iff_exists]

theorem mem_insert_iff {d : Dict α} {k l : String} {v : α} : l ∈ d.insert k v ↔ k = l ∨ l ∈ d :=
  Std.ExtTreeMap.mem_insert.trans (or_congr_left Std.compare_eq_iff_eq)

/-- The keys of the listed pairs are distinct. -/
theorem nodup_keys_toList (d : Dict α) : (d.toList.map Prod.fst).Nodup := by
  rw [List.Nodup, List.pairwise_map]
  refine d.distinct_keys_toList.imp fun {a b} h e => h ?_
  rw [e, Std.compare_self]

/-- **A dictionary is made of the pairs that it lists.** -/
theorem ofPairs_toList (d : Dict α) : ofPairs d.toList = d := by
  refine Std.ExtTreeMap.ext_getElem? fun k => ?_
  cases h : d[k]? with
  | some v =>
    exact Std.ExtTreeMap.getElem?_ofList_of_mem Std.compare_self d.distinct_keys_toList
      (Std.ExtTreeMap.mem_toList_iff_getElem?_eq_some.mpr h)
  | none =>
    refine Std.ExtTreeMap.getElem?_ofList_of_contains_eq_false ?_
    rw [List.contains_eq_mem, decide_eq_false_iff_not]
    intro hk
    obtain ⟨⟨l, v⟩, hm, rfl⟩ := List.mem_map.mp hk
    have hv : d[l]? = some v := Std.ExtTreeMap.mem_toList_iff_getElem?_eq_some.mp hm
    rw [h] at hv
    cases hv

/-- A test of all entries goes through the pairs that are listed. -/
theorem any_toList (d : Dict α) (p : String → α → Bool) :
    d.any p = d.toList.any fun q => p q.1 q.2 := by
  have hloop : d.any p = Id.run (do
      for q in d do
        if p q.1 q.2 then return true
      return false) := by
    obtain ⟨t⟩ := d
    induction t using Std.ExtDTreeMap.inductionOn with
    | mk t => rfl
  have hlist : ∀ l : List (String × α), Id.run (do
      for q in l do
        if p q.1 q.2 then return true
      return false) = l.any fun q => p q.1 q.2 := by
    intro l
    induction l with
    | nil => rfl
    | cons q l ih =>
      rw [List.any_cons, ← ih]
      cases hq : p q.1 q.2 <;> simp [hq]
  rw [hloop, ← hlist]
  simp only [Std.ExtTreeMap.forIn_eq_forIn_toList]

theorem any_eq_true_iff {d : Dict α} {p : String → α → Bool} :
    d.any p = true ↔ ∃ k v, d[k]? = some v ∧ p k v = true := by
  rw [any_toList, List.any_eq_true]
  constructor
  · rintro ⟨⟨k, v⟩, hm, hp⟩
    exact ⟨k, v, Std.ExtTreeMap.mem_toList_iff_getElem?_eq_some.mp hm, hp⟩
  · rintro ⟨k, v, hk, hp⟩
    exact ⟨(k, v), Std.ExtTreeMap.mem_toList_iff_getElem?_eq_some.mpr hk, hp⟩

end Dict

end QuestCheck
