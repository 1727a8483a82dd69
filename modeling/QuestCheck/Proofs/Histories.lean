import Mathlib.Data.List.Induction
import QuestCheck.World.Variables

/-!
# What was written into a table

A table is made by writes, each into one slot. Whatever the order of writes into different slots,
a slot holds what was last written into it, and what a look-up says is decided by these values.

* `lastWritten`: the last value of a slot in a history;
* `held_foldl`: where one write fills its slot and no other, a history leaves the last values;
  `held_foldl_swap`: then writes into different slots may be exchanged;
* `Variables.Slot`, `write`, `held` and `written`: histories of a table of variables;
* `isActorBound_written_iff`: a variable is bound to actors once any actor was given it;
* `resolve_of_global`: a global value counts for everybody where no actor has one;
* **`resolve_written`**: a look-up by the history, and what it is to know a variable.
-/

namespace QuestCheck

/-! ## Histories -/

section Histories

variable {σ α τ : Type} [DecidableEq σ]

/-- The value that was last written into a slot, if any was. -/
def lastWritten (ws : List (σ × α)) (slot : σ) : Option α := ws.reverse.lookup slot

@[simp] theorem lastWritten_nil (slot : σ) : lastWritten ([] : List (σ × α)) slot = none := rfl

theorem lastWritten_concat (ws : List (σ × α)) (w : σ × α) (slot : σ) :
    lastWritten (ws ++ [w]) slot = if slot = w.1 then some w.2 else lastWritten ws slot := by
  obtain ⟨place, value⟩ := w
  unfold lastWritten
  rw [List.reverse_concat, List.lookup_cons]
  by_cases h : slot = place
  · rw [if_pos h, h, beq_self_eq_true]
  · rw [if_neg h, beq_false_of_ne h]

theorem lastWritten_eq_some_iff {ws : List (σ × α)} {slot : σ} {value : α} :
    lastWritten ws slot = some value ↔
      ∃ before after, ws = before ++ (slot, value) :: after ∧ ∀ w ∈ after, w.1 ≠ slot := by
  unfold lastWritten
  rw [List.lookup_eq_some_iff]
  constructor
  · rintro ⟨later, earlier, heq, hlater⟩
    refine ⟨earlier.reverse, later.reverse, ?_, fun w hw heq => ?_⟩
    · rw [← List.reverse_reverse ws, heq]
      simp
    · have hne := hlater w (List.mem_reverse.mp hw)
      simp [heq] at hne
  · rintro ⟨before, after, rfl, hafter⟩
    refine ⟨after.reverse, before.reverse, by simp, fun w hw => ?_⟩
    simpa using (hafter w (List.mem_reverse.mp hw)).symm

theorem lastWritten_eq_none_iff {ws : List (σ × α)} {slot : σ} :
    lastWritten ws slot = none ↔ ∀ w ∈ ws, w.1 ≠ slot := by
  unfold lastWritten
  rw [List.lookup_eq_none_iff]
  simp only [List.mem_reverse, bne_iff_ne, ne_comm]

theorem mem_of_lastWritten {ws : List (σ × α)} {slot : σ} {value : α}
    (h : lastWritten ws slot = some value) : (slot, value) ∈ ws := by
  obtain ⟨before, after, rfl, -⟩ := lastWritten_eq_some_iff.mp h
  exact List.mem_append_right before List.mem_cons_self

theorem isSome_lastWritten_iff {ws : List (σ × α)} {slot : σ} :
    (lastWritten ws slot).isSome = true ↔ ∃ value, (slot, value) ∈ ws := by
  rw [Option.isSome_iff_ne_none, ne_eq, lastWritten_eq_none_iff]
  push Not
  constructor
  · rintro ⟨w, hw, rfl⟩
    exact ⟨w.2, hw⟩
  · rintro ⟨value, hw⟩
    exact ⟨_, hw, rfl⟩

theorem lastWritten_eq_of_mem_iff {ws : List (σ × α)} {held : σ → Option α}
    (h : ∀ slot value, (slot, value) ∈ ws ↔ held slot = some value) (slot : σ) :
    lastWritten ws slot = held slot := by
  cases hlast : lastWritten ws slot with
  | some value => exact ((h slot value).mp (mem_of_lastWritten hlast)).symm
  | none =>
    cases hheld : held slot with
    | none => rfl
    | some value => exact absurd rfl (lastWritten_eq_none_iff.mp hlast _ ((h slot value).mpr hheld))

variable {write : τ → σ × α → τ} {held : τ → σ → Option α}

/-- **One write, then all of them**: if a write leaves all other slots alone, a history leaves in
each slot what was last written into it. -/
theorem held_foldl
    (hwrite : ∀ t w slot, held (write t w) slot = if slot = w.1 then some w.2 else held t slot)
    (t : τ) (ws : List (σ × α)) (slot : σ) :
    held (ws.foldl write t) slot = (lastWritten ws slot).or (held t slot) := by
  induction ws using List.reverseRecOn with
  | nil => rw [List.foldl_nil, lastWritten_nil, Option.none_or]
  | append_singleton ws w ih =>
    rw [List.foldl_append, List.foldl_cons, List.foldl_nil, hwrite, lastWritten_concat, ih]
    by_cases h : slot = w.1
    · rw [if_pos h, if_pos h, Option.some_or]
    · rw [if_neg h, if_neg h]

theorem held_foldl_swap
    (hwrite : ∀ t w slot, held (write t w) slot = if slot = w.1 then some w.2 else held t slot)
    (t : τ) {w w' : σ × α} (h : w.1 ≠ w'.1) (slot : σ) :
    held (write (write t w) w') slot = held (write (write t w') w) slot := by
  simp only [hwrite]
  by_cases hw : slot = w.1
  · rw [if_neg (hw ▸ h), if_pos hw, if_pos hw]
  · rw [if_neg hw, if_neg hw]

end Histories

namespace Variables

/-! ## Tables of variables -/

/-- Where a value may stand: for all, or for one actor. -/
inductive Slot where
  | global (name : String)
  | actor (actor name : String)
  deriving DecidableEq

/-- A slot and the value that is written into it. -/
abbrev Write : Type := Slot × String

/-- The table after a write. -/
def write (t : Variables) : Write → Variables
  | (.global name, value) => t.setGlobal name value
  | (.actor actor name, value) => t.setActor actor name value

/-- The value that stands in a slot. -/
def held (t : Variables) : Slot → Option String
  | .global name => t.global[name]?
  | .actor actor name => (t.ofActor actor)[name]?

/-- The table that a history makes out of the empty one. -/
def written (ws : List Write) : Variables := ws.foldl write empty

/-- **A write fills its own slot and leaves all others alone.** -/
theorem held_write (t : Variables) (w : Write) (slot : Slot) :
    (t.write w).held slot = if slot = w.1 then some w.2 else t.held slot := by
  obtain ⟨place, value⟩ := w
  cases place with
  | global name =>
    cases slot with
    | actor actor other => rfl
    | global other =>
      by_cases h : name = other
      · subst h
        rw [if_pos rfl]
        exact t.global_setGlobal_self name value
      · rw [if_neg (fun heq => h (Slot.global.inj heq).symm)]
        exact t.global_setGlobal_of_ne h value
  | actor actor name =>
    cases slot with
    | global other => rfl
    | actor someone other =>
      by_cases h : actor = someone
      · subst h
        show ((t.setActor actor name value).ofActor actor)[other]? = _
        rw [ofActor_setActor_self]
        by_cases h' : name = other
        · subst h'
          rw [if_pos rfl, Dict.getElem?_insert_self]
        · rw [if_neg (fun heq => h' (Slot.actor.inj heq).2.symm), Dict.getElem?_insert_of_ne _ h']
          rfl
      · rw [if_neg (fun heq => h (Slot.actor.inj heq).1.symm)]
        show ((t.setActor actor name value).ofActor someone)[other]? = _
        rw [ofActor_setActor_of_ne t h]
        rfl

/-- **A slot holds what was last written into it.** -/
theorem held_written (ws : List Write) (slot : Slot) :
    (written ws).held slot = lastWritten ws slot := by
  unfold written
  rw [held_foldl held_write]
  have hempty : empty.held slot = none := by
    cases slot with
    | global name => exact Std.ExtTreeMap.getElem?_empty
    | actor actor name =>
      show (empty.ofActor actor)[name]? = none
      unfold ofActor empty
      rw [Std.ExtTreeMap.getElem?_empty, Option.getD_none, Std.ExtTreeMap.getElem?_empty]
  rw [hempty, Option.or_none]

theorem isActorBound_iff_held {t : Variables} {name : String} :
    t.isActorBound name = true ↔ ∃ actor, (t.held (.actor actor name)).isSome = true := by
  rw [isActorBound_iff]
  exact exists_congr fun actor => Std.ExtTreeMap.mem_iff_isSome_getElem?

/-- **A variable is bound to actors once any actor was given it.** -/
theorem isActorBound_written_iff {ws : List Write} {name : String} :
    (written ws).isActorBound name = true ↔ ∃ actor value, (.actor actor name, value) ∈ ws := by
  simp only [isActorBound_iff_held, held_written, isSome_lastWritten_iff]

/-! ## Looking variables up -/

theorem resolve_some (t : Variables) (a : Actor) (name : String) :
    t.resolve (some a) name =
      match (t.held (.actor a.id name)).or (t.held (.global name)) with
      | some value => .ok value
      | none => .error (.unusable (reference name) ("no value for actor \"" ++ a.id ++ "\"")) := by
  show (t.value (some a) name).mapError (·.fault name) =
    match (t.ofActor a.id)[name]?.or t.global[name]? with
    | some value => .ok value
    | none => _
  unfold value
  simp only [Option.orElse_eq_orElse, Option.orElse_eq_or]
  cases (t.ofActor a.id)[name]?.or t.global[name]? <;> rfl

theorem resolve_none_of_bound {t : Variables} {name : String} (h : t.isActorBound name = true) :
    t.resolve none name = .error (.actorMissing (reference name)) := by
  unfold resolve value
  simp only [h, if_true]
  rfl

theorem resolve_none_of_not_bound {t : Variables} {name : String}
    (h : t.isActorBound name = false) :
    t.resolve none name =
      match t.held (.global name) with
      | some value => .ok value
      | none => .error (.unusable (reference name) "no global value") := by
  show (t.value none name).mapError (·.fault name) =
    match t.global[name]? with
    | some value => .ok value
    | none => _
  unfold value
  simp only [h, Bool.false_eq_true, if_false]
  cases t.global[name]? <;> rfl

theorem resolve_of_global {t : Variables} {name text : String} (hglobal : t.global[name]? = some text)
    (hfree : ∀ actor, name ∉ t.ofActor actor) (actor : Option Actor) :
    t.resolve actor name = .ok text := by
  have hbound : t.isActorBound name = false := by
    rw [Bool.eq_false_iff, ne_eq, isActorBound_iff]
    rintro ⟨other, hother⟩
    exact hfree other hother
  have hall : t.held (.global name) = some text := hglobal
  cases actor with
  | none => rw [resolve_none_of_not_bound hbound, hall]
  | some a =>
    have hown : t.held (.actor a.id name) = none := Dict.getElem?_eq_none_iff.mpr (hfree a.id)
    rw [resolve_some, hown, hall, Option.none_or]

theorem knows_iff_held {t : Variables} {name : String} :
    t.knows name = true ↔
      (t.held (.global name)).isSome = true ∨ ∃ actor, (t.held (.actor actor name)).isSome = true := by
  unfold knows
  rw [Bool.or_eq_true, isActorBound_iff_held, Std.ExtTreeMap.contains_iff_mem,
    Std.ExtTreeMap.mem_iff_isSome_getElem?]
  rfl

theorem exists_resolve_some_iff {t : Variables} {a : Actor} {name : String} :
    (∃ value, t.resolve (some a) name = .ok value) ↔
      (t.held (.actor a.id name)).isSome = true ∨ (t.held (.global name)).isSome = true := by
  rw [resolve_some, ← Bool.or_eq_true, ← Option.isSome_or]
  cases (t.held (.actor a.id name)).or (t.held (.global name)) <;> simp

theorem exists_resolve_none_iff {t : Variables} {name : String} :
    (∃ value, t.resolve none name = .ok value) ↔
      t.isActorBound name = false ∧ (t.held (.global name)).isSome = true := by
  cases hbound : t.isActorBound name with
  | true => simp [resolve_none_of_bound hbound]
  | false =>
    rw [resolve_none_of_not_bound hbound]
    cases t.held (.global name) <;> simp

/-- **To know a variable is to have a value of it for somebody, or without an actor.** -/
theorem knows_iff_exists_resolve (t : Variables) (name : String) :
    t.knows name = true ↔ ∃ actor value, t.resolve actor name = .ok value := by
  rw [knows_iff_held]
  constructor
  · rintro (hglobal | ⟨actor, hactor⟩)
    · exact ⟨some ⟨""⟩, exists_resolve_some_iff.mpr (.inr hglobal)⟩
    · exact ⟨some ⟨actor⟩, exists_resolve_some_iff.mpr (.inl hactor)⟩
  · rintro ⟨actor, h⟩
    cases actor with
    | none => exact .inl (exists_resolve_none_iff.mp h).2
    | some a =>
      rcases exists_resolve_some_iff.mp h with hown | hglobal
      · exact .inr ⟨a.id, hown⟩
      · exact .inl hglobal

/-- **Variables are looked up by the history of their table**: for an actor what was last written
for it, or else for all; without an actor what was last written for all, unless some actor was ever
given the variable. -/
theorem resolve_written (ws : List Write) (name : String) :
    (∀ a : Actor, (written ws).resolve (some a) name =
        match (lastWritten ws (.actor a.id name)).or (lastWritten ws (.global name)) with
        | some value => .ok value
        | none =>
          .error (.unusable ("%" ++ name ++ "%") ("no value for actor \"" ++ a.id ++ "\""))) ∧
      ((∃ actor value, (.actor actor name, value) ∈ ws) →
        (written ws).resolve none name = .error (.actorMissing ("%" ++ name ++ "%"))) ∧
      ((¬ ∃ actor value, (.actor actor name, value) ∈ ws) →
        (written ws).resolve none name =
          match lastWritten ws (.global name) with
          | some value => .ok value
          | none => .error (.unusable ("%" ++ name ++ "%") "no global value")) ∧
      ∀ t : Variables, t.knows name = true ↔ ∃ actor value, t.resolve actor name = .ok value := by
  refine ⟨fun a => ?_, fun hgiven => ?_, fun hfree => ?_, (knows_iff_exists_resolve · name)⟩
  · rw [resolve_some, held_written, held_written]
    rfl
  · exact resolve_none_of_bound (isActorBound_written_iff.mpr hgiven)
  · have hnotBound : (written ws).isActorBound name = false := by
      rwa [Bool.eq_false_iff, ne_eq, isActorBound_written_iff]
    rw [resolve_none_of_not_bound hnotBound, held_written]
    rfl

/-- A value for an actor takes the global ones away from a run without an actor. -/
theorem resolve_written_shadowed :
    let ws : List Write := [(.global "want", "true"), (.actor "P1" "want", "false"),
      (.global "want", "maybe"), (.global "mode", "fast"), (.actor "P1" "want", "true")]
    (∃ actor value, (.actor actor "want", value) ∈ ws) ∧
      (written ws).resolve none "want" = .error (.actorMissing "%want%") ∧
      (¬ ∃ actor value, (.actor actor "mode", value) ∈ ws) ∧
      (written ws).resolve none "mode" = .ok "fast" ∧
      (written ws).resolve (some ⟨"P1"⟩) "want" = .ok "true" ∧
      (written ws).resolve (some ⟨"P2"⟩) "want" = .ok "maybe" := by
  intro ws
  obtain ⟨hwant, hbound, -, -⟩ := resolve_written ws "want"
  obtain ⟨-, -, hmode, -⟩ := resolve_written ws "mode"
  have hgiven : ∃ actor value, (.actor actor "want", value) ∈ ws := ⟨"P1", "false", by decide⟩
  have hfree : ¬ ∃ actor value, (.actor actor "mode", value) ∈ ws := by
    rintro ⟨actor, value, hmem⟩
    simp [ws] at hmem
  exact ⟨hgiven, hbound hgiven, hfree, hmode hfree, hwant ⟨"P1"⟩, hwant ⟨"P2"⟩⟩

end Variables

end QuestCheck
