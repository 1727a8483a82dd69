import Mathlib.Data.Finset.Card
import QuestCheck.Proofs.Histories
import QuestCheck.World.Conditions

/-!
# What was written into a table of conditions

Each condition has a slot for its default and one for every actor. A slot holds what was last
written into it, a condition is known once it was named in a write, and an outcome is decided by the
slots of the actor and of the default.

* `Conditions.Slot`, `write`, `held` and `written`: histories of a table of conditions;
* `held_written`, `mem_entries_written_iff`, `size_written`: what a history leaves;
* `ext_held`: a table is its conditions and its slots; `write_comm`;
* `evaluate_eq`: an outcome, or the gap, by the slots; `Gap.reason_injective`;
* **`written_answers`**: outcomes and knowledge by the history.
-/

namespace QuestCheck.Conditions

/-! ## Slots of an entry -/

/-- The outcome of an entry for an actor, or its default. -/
def Entry.held (e : Entry) : Option String → Option Bool
  | none => e.default
  | some actor => e.actors[actor]?

/-- The entry with another outcome for an actor, or with another default. -/
def Entry.write (e : Entry) (value : Bool) : Option String → Entry
  | none => { e with default := some value }
  | some actor => { e with actors := e.actors.insert actor value }

theorem Entry.held_empty (key : Option String) : Entry.empty.held key = none := by
  cases key with
  | none => rfl
  | some actor => exact Std.ExtTreeMap.getElem?_empty

theorem Entry.held_write (e : Entry) (value : Bool) (key key' : Option String) :
    (e.write value key).held key' = if key' = key then some value else e.held key' := by
  cases key with
  | none => cases key' <;> rfl
  | some actor =>
    cases key' with
    | none => rfl
    | some other =>
      show (e.actors.insert actor value)[other]? = _
      by_cases h : actor = other
      · rw [h, if_pos rfl, Dict.getElem?_insert_self]
      · rw [if_neg (fun heq => h (Option.some.inj heq).symm), Dict.getElem?_insert_of_ne _ h]
        rfl

theorem Entry.ext_held {e e' : Entry} (h : ∀ key, e.held key = e'.held key) : e = e' := by
  obtain ⟨default, actors⟩ := e
  obtain ⟨default', actors'⟩ := e'
  obtain rfl : default = default' := h none
  obtain rfl : actors = actors' := Std.ExtTreeMap.ext_getElem? fun actor => h (some actor)
  rfl

/-! ## Slots of a table -/

/-- Where an outcome may stand: a condition, and an actor or, without one, the default. -/
structure Slot where
  condition : String
  actor : Option String
  deriving DecidableEq

/-- A slot and the outcome that is written into it. -/
abbrev Write : Type := Slot × Bool

/-- The table after a write. -/
def write (t : Conditions) (w : Write) : Conditions :=
  match w.1.actor with
  | none => t.setDefault w.1.condition w.2
  | some actor => t.setActor w.1.condition actor w.2

/-- The outcome that stands in a slot. -/
def held (t : Conditions) (slot : Slot) : Option Bool := (t.entry slot.condition).held slot.actor

theorem write_eq (t : Conditions) (w : Write) :
    t.write w =
      ⟨t.entries.insert w.1.condition ((t.entry w.1.condition).write w.2 w.1.actor)⟩ := by
  obtain ⟨⟨condition, actor⟩, value⟩ := w
  cases actor <;> rfl

theorem entry_write (t : Conditions) (w : Write) (name : String) :
    (t.write w).entry name =
      if name = w.1.condition then (t.entry w.1.condition).write w.2 w.1.actor
      else t.entry name := by
  rw [write_eq, entry]
  by_cases h : name = w.1.condition
  · rw [if_pos h, h, Dict.getElem?_insert_self, Option.getD_some]
  · rw [if_neg h, Dict.getElem?_insert_of_ne _ (Ne.symm h), entry]

theorem mem_entries_write {t : Conditions} {w : Write} {name : String} :
    name ∈ (t.write w).entries ↔ w.1.condition = name ∨ name ∈ t.entries := by
  rw [write_eq]
  exact Dict.mem_insert_iff

/-- **A write fills its own slot and leaves all others alone.** -/
theorem held_write (t : Conditions) (w : Write) (slot : Slot) :
    (t.write w).held slot = if slot = w.1 then some w.2 else t.held slot := by
  obtain ⟨⟨condition, actor⟩, value⟩ := w
  obtain ⟨other, key⟩ := slot
  unfold held
  rw [entry_write]
  by_cases h : other = condition
  · subst h
    rw [if_pos rfl, Entry.held_write]
    exact if_congr (by simp) rfl rfl
  · rw [if_neg h, if_neg (fun heq => h (Slot.mk.inj heq).1)]

theorem held_of_not_mem {t : Conditions} {slot : Slot} (h : slot.condition ∉ t.entries) :
    t.held slot = none := by
  rw [held, entry_of_not_mem h, Entry.held_empty]

/-- **A table is its conditions and what it holds in their slots.** -/
theorem ext_held {t t' : Conditions} (hmem : ∀ name, name ∈ t.entries ↔ name ∈ t'.entries)
    (hheld : ∀ slot, t.held slot = t'.held slot) : t = t' := by
  have hentry : ∀ name, t.entry name = t'.entry name := fun name =>
    Entry.ext_held fun key => hheld ⟨name, key⟩
  have hentries : t.entries = t'.entries := by
    refine Std.ExtTreeMap.ext_getElem? fun name => ?_
    simp only [getElem?_entries, hmem, hentry]
  exact congrArg Conditions.mk hentries

/-- **Writes into different slots may be exchanged.** -/
theorem write_comm (t : Conditions) {w w' : Write} (h : w.1 ≠ w'.1) :
    (t.write w).write w' = (t.write w').write w := by
  refine ext_held (fun name => ?_) (held_foldl_swap held_write t h)
  simp only [mem_entries_write, or_left_comm]

/-! ## Histories -/

theorem not_mem_entries_empty (name : String) : name ∉ empty.entries := Std.ExtTreeMap.not_mem_empty

/-- The table that a history makes out of the empty one. -/
def written (ws : List Write) : Conditions := ws.foldl write empty

/-- Some write names the condition. -/
def Named (ws : List Write) (condition : String) : Prop := ∃ w ∈ ws, w.1.condition = condition

/-- **A slot holds what was last written into it.** -/
theorem held_written (ws : List Write) (slot : Slot) :
    (written ws).held slot = lastWritten ws slot := by
  have hempty : empty.held slot = none := held_of_not_mem (not_mem_entries_empty _)
  unfold written
  rw [held_foldl held_write, hempty, Option.or_none]

/-- **The conditions of a table are those that were named.** -/
theorem mem_entries_written_iff {ws : List Write} {name : String} :
    name ∈ (written ws).entries ↔ Named ws name := by
  have hrun : ∀ t : Conditions,
      name ∈ (ws.foldl write t).entries ↔ Named ws name ∨ name ∈ t.entries := by
    unfold Named
    induction ws with
    | nil => simp
    | cons w ws ih =>
      intro t
      rw [List.foldl_cons, ih, mem_entries_write, List.exists_mem_cons_iff, or_assoc, or_left_comm]
  unfold written
  rw [hrun, or_iff_left (not_mem_entries_empty name)]

theorem size_written (ws : List Write) :
    (written ws).size = (ws.map (·.1.condition)).toFinset.card := by
  have hkeys : (written ws).entries.keys.toFinset = (ws.map (·.1.condition)).toFinset := by
    ext name
    rw [List.mem_toFinset, Std.ExtTreeMap.mem_keys, mem_entries_written_iff, List.mem_toFinset,
      List.mem_map]
    rfl
  rw [← hkeys, List.toFinset_card_of_nodup Std.ExtTreeMap.nodup_keys, Std.ExtTreeMap.length_keys,
    size]

/-! ## Outcomes -/

/-- What is missing where a condition has no outcome. -/
def gap (t : Conditions) (actor : Option Actor) (name : String) : Gap :=
  if name ∈ t.entries then actor.elim .needsActor .noOutcome else .unknown

theorem gap_eq_unknown_iff {t : Conditions} (actor : Option Actor) {name : String} :
    t.gap actor name = .unknown ↔ name ∉ t.entries := by
  unfold gap
  split_ifs with hmem <;> cases actor <;> simp [hmem]

theorem gap_eq_noOutcome_iff {t : Conditions} {actor : Option Actor} {name : String} {a : Actor} :
    t.gap actor name = .noOutcome a ↔ name ∈ t.entries ∧ actor = some a := by
  unfold gap
  split_ifs with hmem <;> cases actor <;> simp [hmem]

theorem gap_eq_needsActor_iff {t : Conditions} {actor : Option Actor} {name : String} :
    t.gap actor name = .needsActor ↔ name ∈ t.entries ∧ actor = none := by
  unfold gap
  split_ifs with hmem <;> cases actor <;> simp [hmem]

/-- **An outcome is that of the actor's slot, or else of the default.** -/
theorem evaluate_eq (t : Conditions) (actor : Option Actor) (id : QualifiedName) :
    t.evaluate actor id =
      match (actor.bind fun a => t.held ⟨id.display, some a.id⟩).or (t.held ⟨id.display, none⟩) with
      | some value => .ok value
      | none => .error (.unevaluable id.display (t.gap actor id.display).reason) := by
  unfold evaluate gap
  rw [outcome_eq]
  by_cases hmem : id.display ∈ t.entries
  · rw [if_pos hmem, if_pos hmem]
    unfold held Entry.outcome Entry.held
    cases actor with
    | none => cases (t.entry id.display).default <;> rfl
    | some a =>
      simp only [Option.bind_some]
      cases (t.entry id.display).actors[a.id]? <;> cases (t.entry id.display).default <;> rfl
  · rw [if_neg hmem, if_neg hmem]
    have hnone : ∀ key, t.held ⟨id.display, key⟩ = none := fun key => held_of_not_mem hmem
    simp only [hnone, Option.bind_fun_none, Option.or_none]
    rfl

theorem Gap.reason_injective : Function.Injective Gap.reason := by
  have hhead : ∀ a : Actor, (Gap.noOutcome a).reason.toList.head? = some 'n' := fun a =>
    head?_append (head?_append rfl)
  intro gap gap' h
  cases gap with
  | unknown =>
    cases gap' with
    | unknown => rfl
    | noOutcome a => exact absurd h.symm (ne_of_head? (hhead a) (by decide))
    | needsActor => exact absurd h (by decide)
  | noOutcome a =>
    cases gap' with
    | unknown => exact absurd h (ne_of_head? (hhead a) (by decide))
    | noOutcome b =>
      have hid : a.id = b.id := (String.append_right_inj _).mp ((String.append_left_inj _).mp h)
      exact congrArg Gap.noOutcome (congrArg Actor.mk hid)
    | needsActor => exact absurd h (ne_of_head? (hhead a) (by decide))
  | needsActor =>
    cases gap' with
    | unknown => exact absurd h (by decide)
    | noOutcome a => exact absurd h.symm (ne_of_head? (hhead a) (by decide))
    | needsActor => rfl

theorem knows_written_iff {ws : List Write} {id : QualifiedName} :
    (written ws).knows id = true ↔ Named ws id.display :=
  knows_iff.trans mem_entries_written_iff

/-- **Conditions are looked up by the history of their table**: what was last written for the actor,
or else as the default. Where there is neither, the reason says which of three gaps it is. -/
theorem written_answers (ws : List Write) :
    (∀ (actor : Option Actor) (id : QualifiedName),
        match (actor.bind fun a => lastWritten ws ⟨id.display, some a.id⟩).or
            (lastWritten ws ⟨id.display, none⟩) with
        | some value => (written ws).evaluate actor id = .ok value
        | none => ∃ reason, (written ws).evaluate actor id =
              .error (.unevaluable id.display reason) ∧
            (reason = "unknown condition" ↔ ¬ Named ws id.display) ∧
            (∀ a : Actor, reason = "no outcome for actor \"" ++ a.id ++ "\"" ↔
              Named ws id.display ∧ actor = some a) ∧
            (reason = "requires an actor" ↔ Named ws id.display ∧ actor = none)) ∧
      (∀ id, (written ws).knows id = true ↔ Named ws id.display) ∧
      (written ws).size = (ws.map (·.1.condition)).toFinset.card ∧
      ∀ (t : Conditions) (w w' : Write), w.1 ≠ w'.1 →
        (t.write w).write w' = (t.write w').write w := by
  refine ⟨fun actor id => ?_, fun id => knows_written_iff, size_written ws,
    fun t w w' => t.write_comm⟩
  have hevaluate := (written ws).evaluate_eq actor id
  simp only [held_written] at hevaluate
  cases hlast : (actor.bind fun a => lastWritten ws ⟨id.display, some a.id⟩).or
      (lastWritten ws ⟨id.display, none⟩) with
  | some value =>
    rw [hlast] at hevaluate
    exact hevaluate
  | none =>
    rw [hlast] at hevaluate
    refine ⟨_, hevaluate, ?_, fun a => ?_, ?_⟩
    · rw [← mem_entries_written_iff, ← gap_eq_unknown_iff actor]
      exact Gap.reason_injective.eq_iff (b := .unknown)
    · rw [← mem_entries_written_iff, ← gap_eq_noOutcome_iff]
      exact Gap.reason_injective.eq_iff (b := .noOutcome a)
    · rw [← mem_entries_written_iff, ← gap_eq_needsActor_iff]
      exact Gap.reason_injective.eq_iff (b := .needsActor)

/-- An outcome for an actor, written twice, beside a default, and a condition without a default. -/
theorem written_answers_hasGold :
    let ws : List Write := [(⟨"hasGold", some "P1"⟩, false), (⟨"hasGold", none⟩, false),
      (⟨"open", some "P2"⟩, true), (⟨"hasGold", some "P1"⟩, true)]
    let t := written ws
    t.evaluate (some ⟨"P1"⟩) ⟨none, "hasGold"⟩ = .ok true ∧
      t.evaluate (some ⟨"P2"⟩) ⟨none, "hasGold"⟩ = .ok false ∧ t.size = 2 ∧
      (⟨"hasGold", none⟩ : Slot) ≠ ⟨"hasGold", some "P1"⟩ ∧
      (t.write (⟨"hasGold", none⟩, true)).write (⟨"hasGold", some "P1"⟩, false) =
        (t.write (⟨"hasGold", some "P1"⟩, false)).write (⟨"hasGold", none⟩, true) := by
  intro ws t
  obtain ⟨hevaluate, -, hsize, hcomm⟩ := written_answers ws
  have hslots : (⟨"hasGold", none⟩ : Slot) ≠ ⟨"hasGold", some "P1"⟩ := by decide
  exact ⟨hevaluate (some ⟨"P1"⟩) ⟨none, "hasGold"⟩, hevaluate (some ⟨"P2"⟩) ⟨none, "hasGold"⟩,
    hsize, hslots, hcomm t _ _ hslots⟩

end QuestCheck.Conditions
