import QuestCheck.Proofs.Outcomes
import QuestCheck.Stored

/-!
# Known conditions without an outcome

A table knows the conditions that have an entry. What can be evaluated is known, but an entry may be
empty, and then its condition is known and has no outcome for anybody. No write leaves such an entry
behind; only a stored table can hold one.

* `exists_held_iff`: a slot of a condition is filled if its entry is there and not empty;
* `exists_evaluate_iff`: a condition has an outcome if some slot of it is filled;
* `entries_written_ne_empty`: no history leaves an empty entry;
* `Entry.outcomes`, `writes`: the writes of what a table holds, and `written_writes`: they are a
  history of every table without an empty entry;
* **`knows_iff_evaluable_iff`**: what is known can be evaluated exactly in the tables that writes
  make.
-/

namespace QuestCheck.Conditions

/-! ## Outcomes for somebody -/

theorem mem_entries_iff {t : Conditions} {name : String} :
    name ∈ t.entries ↔ t.entries[name]? = some (t.entry name) := by
  rw [getElem?_entries]
  by_cases hmem : name ∈ t.entries
  · simp [hmem]
  · simp [hmem]

theorem mem_entries_of_held {t : Conditions} {slot : Slot} {value : Bool}
    (h : t.held slot = some value) : slot.condition ∈ t.entries := by
  by_contra hnot
  rw [held_of_not_mem hnot] at h
  cases h

/-- **Some slot of a condition is filled if it has an entry that is not empty.** -/
theorem exists_held_iff {t : Conditions} {name : String} :
    (∃ key value, t.held ⟨name, key⟩ = some value) ↔
      name ∈ t.entries ∧ t.entries[name]? ≠ some .empty := by
  constructor
  · rintro ⟨key, value, h⟩
    have hmem : name ∈ t.entries := mem_entries_of_held h
    refine ⟨hmem, fun hempty => ?_⟩
    have hentry : t.entry name = .empty :=
      Option.some.inj ((mem_entries_iff.mp hmem).symm.trans hempty)
    rw [held, hentry, Entry.held_empty] at h
    cases h
  · rintro ⟨hmem, hne⟩
    by_contra hnone
    simp only [not_exists, ← Option.eq_none_iff_forall_ne_some] at hnone
    have hentry : t.entry name = .empty :=
      Entry.ext_held fun key => (hnone key).trans (Entry.held_empty key).symm
    exact hne (by rw [mem_entries_iff.mp hmem, hentry])

/-- **A condition has an outcome for somebody if any slot of it is filled.** -/
theorem exists_evaluate_iff {t : Conditions} {id : QualifiedName} :
    (∃ actor value, t.evaluate actor id = .ok value) ↔
      ∃ key value, t.held ⟨id.display, key⟩ = some value := by
  have hvalue : ∀ actor value, t.evaluate actor id = .ok value ↔
      (actor.bind fun a => t.held ⟨id.display, some a.id⟩).or (t.held ⟨id.display, none⟩) =
        some value := by
    intro actor value
    rw [evaluate_eq]
    cases (actor.bind fun a => t.held ⟨id.display, some a.id⟩).or (t.held ⟨id.display, none⟩) <;>
      simp
  simp only [hvalue, Option.or_eq_some_iff]
  constructor
  · rintro ⟨actor, value, hown | ⟨-, hdefault⟩⟩
    · obtain ⟨a, -, ha⟩ := Option.bind_eq_some_iff.mp hown
      exact ⟨some a.id, value, ha⟩
    · exact ⟨none, value, hdefault⟩
  · rintro ⟨key, value, h⟩
    cases key with
    | none => exact ⟨none, value, .inr ⟨rfl, h⟩⟩
    | some actor => exact ⟨some ⟨actor⟩, value, .inl h⟩

/-- **What can be evaluated is what is known and has no empty entry.** -/
theorem exists_evaluate_iff_knows {t : Conditions} {id : QualifiedName} :
    (∃ actor value, t.evaluate actor id = .ok value) ↔
      t.knows id = true ∧ t.entries[id.display]? ≠ some .empty := by
  rw [exists_evaluate_iff, exists_held_iff, knows_iff]

/-! ## The tables that writes make -/

/-- **No history leaves an empty entry behind**: no slot is ever emptied. -/
theorem entries_written_ne_empty (ws : List Write) (name : String) :
    (written ws).entries[name]? ≠ some .empty := by
  intro hempty
  have hmem : name ∈ (written ws).entries := Dict.mem_iff_exists.mpr ⟨_, hempty⟩
  obtain ⟨⟨slot, value⟩, hw, rfl⟩ := mem_entries_written_iff.mp hmem
  have hfilled : (lastWritten ws slot).isSome = true := isSome_lastWritten_iff.mpr ⟨value, hw⟩
  rw [← held_written] at hfilled
  obtain ⟨last, hlast⟩ := Option.isSome_iff_exists.mp hfilled
  exact (exists_held_iff.mp ⟨slot.actor, last, hlast⟩).2 hempty

/-- The outcomes of an entry, each with its actor. -/
def Entry.outcomes (e : Entry) : List (Option String × Bool) :=
  (e.default.map (none, ·)).toList ++ e.actors.toList.map fun p => (some p.1, p.2)

theorem Entry.mem_outcomes_iff {e : Entry} {key : Option String} {value : Bool} :
    (key, value) ∈ e.outcomes ↔ e.held key = some value := by
  unfold outcomes held
  cases key with
  | none => simp
  | some actor => simp [Std.ExtTreeMap.mem_toList_iff_getElem?_eq_some]

/-- The writes of what a table holds. -/
def writes (t : Conditions) : List Write :=
  t.entries.toList.flatMap fun p => p.2.outcomes.map fun o => (⟨p.1, o.1⟩, o.2)

theorem mem_writes_iff {t : Conditions} {slot : Slot} {value : Bool} :
    (slot, value) ∈ t.writes ↔ t.held slot = some value := by
  unfold writes
  simp only [List.mem_flatMap, List.mem_map, Prod.exists, Prod.mk.injEq,
    Std.ExtTreeMap.mem_toList_iff_getElem?_eq_some]
  constructor
  · rintro ⟨name, e, he, key, outcome, ho, rfl, rfl⟩
    have hentry : t.entry name = e := by
      rw [entry, he, Option.getD_some]
    rw [held, hentry]
    exact Entry.mem_outcomes_iff.mp ho
  · intro h
    exact ⟨slot.condition, t.entry slot.condition, mem_entries_iff.mp (mem_entries_of_held h),
      slot.actor, value, Entry.mem_outcomes_iff.mpr h, rfl, rfl⟩

theorem named_writes_iff {t : Conditions} {name : String} :
    Named t.writes name ↔ ∃ key value, t.held ⟨name, key⟩ = some value := by
  constructor
  · rintro ⟨⟨slot, value⟩, hw, rfl⟩
    exact ⟨slot.actor, value, mem_writes_iff.mp hw⟩
  · rintro ⟨key, value, h⟩
    exact ⟨(⟨name, key⟩, value), mem_writes_iff.mpr h, rfl⟩

/-- **Every table without an empty entry has a history.** -/
theorem written_writes {t : Conditions} (h : ∀ name : String, t.entries[name]? ≠ some .empty) :
    written t.writes = t := by
  refine ext_held (fun name => ?_) fun slot => ?_
  · rw [mem_entries_written_iff, named_writes_iff, exists_held_iff, and_iff_left (h name)]
  · rw [held_written]
    exact lastWritten_eq_of_mem_iff (fun _ _ => mem_writes_iff) slot

/-! ## Knowing and evaluating -/

/-- **What is known can be evaluated exactly in the tables that writes make**: those without an
empty entry. -/
theorem knows_iff_evaluable_iff (t : Conditions) :
    (∀ id, (∃ actor value, t.evaluate actor id = .ok value) ↔
        t.knows id = true ∧ t.entries[id.display]? ≠ some ⟨none, ∅⟩) ∧
      ((∀ id, t.knows id = true ↔ ∃ actor value, t.evaluate actor id = .ok value) ↔
        ∃ ws, written ws = t) := by
  refine ⟨fun id => exists_evaluate_iff_knows, fun h => ?_, ?_⟩
  · refine ⟨t.writes, written_writes fun name hempty => ?_⟩
    have hknows : t.knows ⟨none, name⟩ = true := knows_iff.mpr (Dict.mem_iff_exists.mpr ⟨_, hempty⟩)
    exact (exists_evaluate_iff_knows.mp ((h ⟨none, name⟩).mp hknows)).2 hempty
  · rintro ⟨ws, rfl⟩ id
    rw [exists_evaluate_iff_knows]
    exact (and_iff_left (entries_written_ne_empty ws id.display)).symm

/-- A stored table may know a condition that has no outcome for anybody. -/
theorem knows_without_outcome :
    ∃ t, Stored.read Conditions.ofJson? "\x7b\"c\":\x7b\x7d\x7d" = .ok t ∧
      t.knows ⟨none, "c"⟩ = true ∧ ¬ ∃ actor value, t.evaluate actor ⟨none, "c"⟩ = .ok value := by
  refine ⟨⟨Dict.ofPairs [("c", ⟨none, ∅⟩)]⟩, rfl, rfl, ?_⟩
  rw [exists_evaluate_iff_knows]
  exact fun h => h.2 rfl

end QuestCheck.Conditions
