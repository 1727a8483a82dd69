import Mathlib.Data.List.Forall2
import QuestCheck.Json.Decode

/-!
# Records and dictionaries in JSON

What a JSON value says can be told without reading it: in an object the order of the members does
not count, a record may have members that nothing asks for, and of the members of a dictionary with
one key the last one counts. Reading finds just what is said.

* `fields`: the members of an object whose keys are texts, with `members?_eq_some_iff`;
* `OrNull` and `nullable?_eq_some_iff`: a value, or null in its place;
* `Entries` and `dict?_eq_some_iff`: a dictionary;
* `Record` and **`slots?_eq_some_iff`**: what stands in the fields of a record;
* `Slot` and `readSlot_eq_some_iff`: what a field says, or what stands for it.
-/

namespace QuestCheck.Json

variable {α β γ : Type} {v : Json} {read : Json → Option α} {Says : Json → α → Prop}

/-! ## Truth values and texts -/

theorem truth?_eq_some_iff {b : Bool} : truth? v = some b ↔ v = .bool b := by
  constructor
  · intro h
    cases v with
    | bool b' =>
      cases h
      rfl
    | _ => cases h
  · rintro rfl
    rfl

theorem chars?_eq_some_iff {ps : List Piece} {cs : List Char} :
    chars? ps = some cs ↔ ps = cs.map .char := by
  constructor
  · intro h
    induction ps generalizing cs with
    | nil =>
      cases h
      rfl
    | cons p ps ih =>
      cases p with
      | half unit => cases h
      | char c =>
        obtain ⟨rest, hrest, rfl⟩ := Option.map_eq_some_iff.mp h
        rw [ih hrest, List.map_cons]
  · rintro rfl
    exact chars?_map_char cs

theorem text?_eq_some_iff {ps : List Piece} {s : String} : text? ps = some s ↔ ps = pieces s := by
  constructor
  · intro h
    obtain ⟨cs, hcs, rfl⟩ := Option.map_eq_some_iff.mp h
    rw [chars?_eq_some_iff.mp hcs, pieces, String.toList_ofList]
  · rintro rfl
    exact text?_pieces s

theorem textValue?_eq_some_iff {s : String} : textValue? v = some s ↔ v = text s := by
  cases v with
  | string ps => exact text?_eq_some_iff.trans (Json.string.injEq ps (pieces s)).symm.to_iff
  | _ => exact ⟨nofun, nofun⟩

/-- A value, or null in its place. -/
inductive OrNull (Says : Json → α → Prop) : Json → Option α → Prop
  | null : OrNull Says .null none
  | value {v : Json} {a : α} (h : Says v a) : OrNull Says v (some a)

theorem nullable?_eq_some_iff (h : ∀ v a, read v = some a ↔ Says v a) (hnull : ∀ a, ¬ Says .null a)
    {o : Option α} : nullable? read v = some o ↔ OrNull Says v o := by
  constructor
  · intro hread
    unfold nullable? at hread
    split at hread
    · cases hread
      exact .null
    · obtain ⟨a, ha, rfl⟩ := Option.map_eq_some_iff.mp hread
      exact .value ((h _ a).mp ha)
  · rintro (_ | hsaid)
    · rfl
    · have hread := (h _ _).mpr hsaid
      unfold nullable?
      split
      · -- null says no value, so that it always stands for none
        exact absurd hsaid (hnull _)
      · rw [hread]
        rfl

/-! ## Objects -/

theorem mapM_eq_some_iff {f : α → Option β} {xs : List α} {ys : List β} :
    xs.mapM f = some ys ↔ List.Forall₂ (fun x y => f x = some y) xs ys := by
  induction xs generalizing ys with
  | nil => simp
  | cons x xs ih =>
    rw [List.mapM_cons, List.forall₂_cons_left_iff]
    simp only [Option.bind_eq_bind, Option.bind_eq_some_iff, ih, Option.pure_def, Option.some.injEq]
    constructor
    · rintro ⟨y, hy, ys, hys, rfl⟩
      exact ⟨y, ys, hy, hys, rfl⟩
    · rintro ⟨y, ys, hy, hys, rfl⟩
      exact ⟨y, hy, ys, hys, rfl⟩

/-- The members of an object, by the texts of their keys. -/
def fields (ms : List (String × Json)) : List (List Piece × Json) :=
  ms.map fun m => (pieces m.1, m.2)

theorem members?_eq_some_iff {members : List (List Piece × Json)} {ms : List (String × Json)} :
    members? members = some ms ↔ members = fields ms := by
  have hmember : ∀ (m : List Piece × Json) (p : String × Json),
      (text? m.1).map (·, m.2) = some p ↔ m = (pieces p.1, p.2) := by
    rintro ⟨ps, v⟩ ⟨s, w⟩
    rw [Option.map_eq_some_iff]
    constructor
    · rintro ⟨t, ht, ⟨⟩⟩
      have hps : ps = pieces s := text?_eq_some_iff.mp ht
      rw [hps]
    · rintro ⟨⟩
      exact ⟨s, text?_pieces s, rfl⟩
  unfold members? fields
  rw [mapM_eq_some_iff]
  simp only [hmember]
  rw [← List.forall₂_map_right_iff, List.forall₂_eq_eq_eq]

/-- The value is an object whose members say the pairs of a list, one after another, and the
dictionary is made of these pairs. -/
def Entries (Says : Json → α → Prop) (v : Json) (d : Dict α) : Prop :=
  ∃ ms ps, v = .object (fields ms) ∧
    List.Forall₂ (fun m p => m.1 = p.1 ∧ Says m.2 p.2) ms ps ∧ Dict.ofPairs ps = d

theorem dict?_eq_some_iff (h : ∀ v a, read v = some a ↔ Says v a) {d : Dict α} :
    dict? read v = some d ↔ Entries Says v d := by
  have hpair : ∀ (m : String × Json) (p : String × α),
      (read m.2).map (m.1, ·) = some p ↔ m.1 = p.1 ∧ Says m.2 p.2 := by
    rintro ⟨key, w⟩ ⟨key', a⟩
    rw [Option.map_eq_some_iff, ← h]
    constructor
    · rintro ⟨b, hb, ⟨⟩⟩
      exact ⟨rfl, hb⟩
    · rintro ⟨rfl, ha⟩
      exact ⟨a, ha, rfl⟩
  cases v with
  | object members =>
    simp only [dict?, Option.bind_eq_bind, Option.bind_eq_some_iff, members?_eq_some_iff,
      mapM_eq_some_iff, hpair, Option.pure_def, Option.some.injEq]
    constructor
    · rintro ⟨ms, rfl, ps, hps, hd⟩
      exact ⟨ms, ps, rfl, hps, hd⟩
    · rintro ⟨ms, ps, hms, hps, hd⟩
      exact ⟨ms, Json.object.inj hms, ps, hps, hd⟩
  | _ => exact ⟨nofun, fun ⟨_, _, hms, _⟩ => Json.noConfusion hms⟩

/-! ## Records -/

/-- The value is a record, and this stands in its fields. In an object, a field stands at most once,
before or behind any other members, and it may be missing. In an array the fields stand in order,
and those that are not required may be missing at the end. -/
inductive Record (names : List String) (required : Nat) : Json → List (Option Json) → Prop
  | object {ms : List (String × Json)} {slots : List (Option Json)}
      (h : List.Forall₂
        (fun name slot => ms.filter (·.1 == name) = (slot.map (name, ·)).toList) names slots) :
      Record names required (.object (fields ms)) slots
  | array {vs : List Json} (hrequired : required ≤ vs.length) (hlength : vs.length ≤ names.length) :
      Record names required (.array vs)
        (vs.map some ++ List.replicate (names.length - vs.length) none)

theorem slot?_eq_some_iff {ms : List (String × Json)} {key : String} {o : Option Json} :
    slot? ms key = some o ↔ ms.filter (·.1 == key) = (o.map (key, ·)).toList := by
  have hkey : ∀ m ∈ ms.filter (·.1 == key), m.1 = key := fun m hm =>
    eq_of_beq (List.mem_filter.mp hm).2
  unfold slot?
  -- all that is found has the key, so that only the number and the values are left to compare
  generalize ms.filter (·.1 == key) = found at hkey
  cases found with
  | nil => cases o <;> simp
  | cons m rest =>
    obtain ⟨k, v⟩ := m
    obtain rfl : k = key := hkey _ List.mem_cons_self
    cases rest with
    | nil => cases o <;> simp
    | cons m' rest => cases o <;> simp

theorem slots?_eq_some_iff {names : List String} {required : Nat} {slots : List (Option Json)} :
    slots? names required false v = some slots ↔ Record names required v slots := by
  cases v with
  | object members =>
    simp only [slots?, Bool.false_and, Bool.false_eq_true, if_false, Option.bind_eq_bind,
      Option.bind_eq_some_iff, members?_eq_some_iff, mapM_eq_some_iff, slot?_eq_some_iff]
    constructor
    · rintro ⟨ms, rfl, hslots⟩
      exact .object hslots
    · rintro ⟨hslots⟩
      exact ⟨_, rfl, hslots⟩
  | array vs =>
    simp only [slots?, Option.ite_none_right_eq_some, Option.some.injEq]
    constructor
    · rintro ⟨⟨hrequired, hlength⟩, rfl⟩
      exact .array hrequired hlength
    · rintro ⟨⟩
      exact ⟨⟨by assumption, by assumption⟩, rfl⟩
  | _ => exact ⟨nofun, nofun⟩

/-- What a field says: its value, or, where it is missing, the value that stands for it. -/
inductive Slot (missing : Option α) (Says : Json → α → Prop) : Option Json → α → Prop
  | written {v : Json} {a : α} (h : Says v a) : Slot missing Says (some v) a
  | missing {a : α} (h : missing = some a) : Slot missing Says none a

theorem readSlot_eq_some_iff (h : ∀ v a, read v = some a ↔ Says v a) {missing : Option α}
    {slot : Option Json} {a : α} :
    readSlot missing read slot = some a ↔ Slot missing Says slot a := by
  cases slot with
  | none =>
    constructor
    · exact .missing
    · rintro ⟨⟩
      assumption
  | some v =>
    constructor
    · intro hread
      exact .written ((h v a).mp hread)
    · rintro (hsaid | _)
      exact (h v a).mpr hsaid

/-- What a record of two fields says. -/
def Pair (k l : String) (required : Nat) (First : Option Json → α → Prop)
    (Second : Option Json → β → Prop) (v : Json) (a : α) (b : β) : Prop :=
  ∃ x y, Record [k, l] required v [x, y] ∧ First x a ∧ Second y b

theorem pair_eq_some_iff {k l : String} {required : Nat} {first : Option Json → Option α}
    {second : Option Json → Option β} {First : Option Json → α → Prop}
    {Second : Option Json → β → Prop} (hfirst : ∀ x a, first x = some a ↔ First x a)
    (hsecond : ∀ y b, second y = some b ↔ Second y b) {make : α → β → γ}
    (hmake : Function.Injective2 make) {a : α} {b : β} :
    (do
      match ← slots? [k, l] required false v with
      | [x, y] => return make (← first x) (← second y)
      | _ => none) = some (make a b) ↔ Pair k l required First Second v a b := by
  simp only [Option.bind_eq_bind, Option.bind_eq_some_iff, slots?_eq_some_iff]
  constructor
  · rintro ⟨slots, hslots, hread⟩
    split at hread
    · next x y =>
      simp only [Option.bind_eq_some_iff, hfirst, hsecond, Option.pure_def, Option.some.injEq]
        at hread
      obtain ⟨a', ha, b', hb, heq⟩ := hread
      obtain ⟨rfl, rfl⟩ := hmake heq
      exact ⟨x, y, hslots, ha, hb⟩
    · cases hread
  · rintro ⟨x, y, hslots, ha, hb⟩
    refine ⟨[x, y], hslots, ?_⟩
    simp only [(hfirst x a).mpr ha, (hsecond y b).mpr hb]
    rfl

theorem pair_fields {k l : String} (hne : k ≠ l) {v w : Json} {First : Option Json → α → Prop}
    {Second : Option Json → β → Prop} {a : α} {b : β} (ha : First (some v) a)
    (hb : Second (some w) b) (required : Nat) :
    Pair k l required First Second (.object (fields [(k, v), (l, w)])) a b := by
  refine ⟨some v, some w, .object (.cons ?_ (.cons ?_ .nil)), ha, hb⟩
  · simp [Ne.symm hne]
  · simp [hne]

end QuestCheck.Json
