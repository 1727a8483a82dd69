import QuestCheck.Proofs.JsonValues
import QuestCheck.Proofs.Records
import QuestCheck.Stored

/-!
# Stored values are read back

What is stored is written as JSON, and reading it back gives the value again, whatever characters
its texts have and whatever its dictionaries hold. The text of a value may be written in many ways,
but once it has been read and written it stays as it is.

* `Stored.Form`: how values are written, and what a JSON value has to say to be read as one;
* `Form.optional`, `Form.dict`: forms from the forms of the parts;
* `Stored.Kind`: what is stored, with its `form`;
* `Kind.read`, `Kind.write`, and `Kind.normalize`, which reads a text and writes it again;
* **`Stored.reloading_changes_nothing`**: stored values are read back as they were.
-/

namespace QuestCheck

open Json

variable {α : Type}

/-! ## Objects -/

theorem Json.legible_fields {ms : List (String × Json)} (h : ∀ m ∈ ms, Legible m.2) :
    Legible (.object (fields ms)) := by
  apply legible_object
  intro m hm
  obtain ⟨m', hm', rfl⟩ := List.mem_map.mp hm
  exact ⟨⟨m'.1, rfl⟩, h m' hm'⟩

theorem Json.legible_pair (k l : String) {v w : Json} (hv : Legible v) (hw : Legible w) :
    Legible (.object (fields [(k, v), (l, w)])) := by
  apply legible_fields
  exact List.forall_mem_cons.mpr ⟨hv, List.forall_mem_singleton.mpr hw⟩

theorem Dict.toJson_eq_fields (write : α → Json) (d : Dict α) :
    d.toJson write = .object (fields (d.toList.map fun p => (p.1, write p.2))) := by
  rw [fields, List.map_map]
  rfl

/-! ## Forms -/

namespace Stored

/-- How values are written, and how they are read. What is written is legible and says the value,
and just what says a value is read as it. -/
structure Form (α : Type) where
  toJson : α → Json
  ofJson? : Json → Option α
  Says : Json → α → Prop
  legible : ∀ a, (toJson a).Legible
  says_toJson : ∀ a, Says (toJson a) a
  ofJson?_eq_some_iff : ∀ v a, ofJson? v = some a ↔ Says v a

namespace Form

/-- **What is written of a value is read as it.** -/
theorem ofJson?_toJson (form : Form α) (a : α) : form.ofJson? (form.toJson a) = some a :=
  (form.ofJson?_eq_some_iff _ a).mpr (form.says_toJson a)

/-- Truth values. -/
def truth : Form Bool where
  toJson := .bool
  ofJson? := truth?
  Says v b := v = .bool b
  legible := legible_bool
  says_toJson _ := rfl
  ofJson?_eq_some_iff _ _ := truth?_eq_some_iff

/-- Texts. -/
def text : Form String where
  toJson := Json.text
  ofJson? := textValue?
  Says v s := v = Json.text s
  legible := legible_text
  says_toJson _ := rfl
  ofJson?_eq_some_iff _ _ := textValue?_eq_some_iff

/-- Values of a form, or null in their place. -/
def optional (form : Form α) (hnull : ∀ a, ¬ form.Says .null a) : Form (Option α) where
  toJson a := (a.map form.toJson).getD .null
  ofJson? := nullable? form.ofJson?
  Says := OrNull form.Says
  legible a := by
    cases a with
    | none => exact legible_null
    | some a => exact form.legible a
  says_toJson a := by
    cases a with
    | none => exact .null
    | some a => exact .value (form.says_toJson a)
  ofJson?_eq_some_iff _ _ := nullable?_eq_some_iff form.ofJson?_eq_some_iff hnull

/-- Dictionaries of values of a form. -/
def dict (form : Form α) : Form (Dict α) where
  toJson := Dict.toJson form.toJson
  ofJson? := dict? form.ofJson?
  Says := Entries form.Says
  legible d := by
    rw [Dict.toJson_eq_fields]
    apply legible_fields
    intro m hm
    obtain ⟨p, -, rfl⟩ := List.mem_map.mp hm
    exact form.legible p.2
  says_toJson d := by
    refine ⟨_, d.toList, Dict.toJson_eq_fields form.toJson d, ?_, d.ofPairs_toList⟩
    rw [List.forall₂_map_left_iff, List.forall₂_same]
    exact fun p _ => ⟨rfl, form.says_toJson p.2⟩
  ofJson?_eq_some_iff _ _ := dict?_eq_some_iff form.ofJson?_eq_some_iff

theorem slot_eq_some_iff (form : Form α) (missing : Option α) (x : Option Json) (a : α) :
    readSlot missing form.ofJson? x = some a ↔ Slot missing form.Says x a :=
  readSlot_eq_some_iff form.ofJson?_eq_some_iff

/-- Actors. -/
def actor : Form Actor where
  toJson := Actor.toJson
  ofJson? := Actor.ofJson?
  Says v a := ∃ x, Record ["id"] 1 v [x] ∧ Slot none text.Says x a.id
  legible a := by
    have hfields : ∀ m ∈ [("id", Json.text a.id)], Legible m.2 :=
      List.forall_mem_singleton.mpr (text.legible a.id)
    exact legible_fields hfields
  says_toJson a := by
    have hrecord : Record ["id"] 1 (.object (fields [("id", Json.text a.id)]))
        [some (Json.text a.id)] := .object (.cons rfl .nil)
    exact ⟨_, hrecord, .written (text.says_toJson a.id)⟩
  ofJson?_eq_some_iff v a := by
    simp only [Actor.ofJson?, Option.bind_eq_bind, Option.bind_eq_some_iff, slots?_eq_some_iff]
    constructor
    · rintro ⟨slots, hslots, hread⟩
      split at hread
      · next x =>
        obtain ⟨id, hid, ⟨⟩⟩ := Option.bind_eq_some_iff.mp hread
        exact ⟨x, hslots, (text.slot_eq_some_iff none x id).mp hid⟩
      · cases hread
    · rintro ⟨x, hslots, hid⟩
      refine ⟨[x], hslots, Option.bind_eq_some_iff.mpr ⟨a.id, ?_, rfl⟩⟩
      exact (text.slot_eq_some_iff none x a.id).mpr hid

/-- Packages, where there is one. -/
def package : Form (Option String) := text.optional fun _ => Json.noConfusion

/-- Qualified names, which conditions and checks have. -/
def name : Form QualifiedName where
  toJson := QualifiedName.toJson
  ofJson? := QualifiedName.ofJson?
  Says v q := Pair "package" "name" 2 (Slot (some none) package.Says) (Slot none text.Says) v
    q.package q.name
  legible q := legible_pair _ _ (package.legible q.package) (text.legible q.name)
  says_toJson q := pair_fields (by decide) (.written (package.says_toJson q.package))
    (.written (text.says_toJson q.name)) 2
  ofJson?_eq_some_iff _ _ := by
    have hmake : Function.Injective2 QualifiedName.mk := by
      rintro p p' n n' ⟨⟩
      exact ⟨rfl, rfl⟩
    exact pair_eq_some_iff (package.slot_eq_some_iff _) (text.slot_eq_some_iff _) hmake

/-- Defaults, where there is one. -/
def default : Form (Option Bool) := truth.optional fun _ => Json.noConfusion

/-- The outcomes of a condition. -/
def outcomes : Form Conditions.Entry where
  toJson := Conditions.Entry.toJson
  ofJson? := Conditions.Entry.ofJson?
  Says v e := Pair "default" "actors" 0 (Slot (some none) default.Says)
    (Slot (some ∅) truth.dict.Says) v e.default e.actors
  legible e := legible_pair _ _ (default.legible e.default) (truth.dict.legible e.actors)
  says_toJson e := pair_fields (by decide) (.written (default.says_toJson e.default))
    (.written (truth.dict.says_toJson e.actors)) 0
  ofJson?_eq_some_iff _ _ := by
    have hmake : Function.Injective2 Conditions.Entry.mk := by
      rintro d d' as as' ⟨⟩
      exact ⟨rfl, rfl⟩
    exact pair_eq_some_iff (default.slot_eq_some_iff _) (truth.dict.slot_eq_some_iff _) hmake

/-- Tables of conditions. -/
def conditions : Form Conditions where
  toJson := Conditions.toJson
  ofJson? := Conditions.ofJson?
  Says v t := outcomes.dict.Says v t.entries
  legible t := outcomes.dict.legible t.entries
  says_toJson t := outcomes.dict.says_toJson t.entries
  ofJson?_eq_some_iff v t := by
    rw [← outcomes.dict.ofJson?_eq_some_iff]
    show (dict? Conditions.Entry.ofJson? v).map Conditions.mk = some t ↔ _
    rw [Option.map_eq_some_iff]
    constructor
    · rintro ⟨entries, hentries, rfl⟩
      exact hentries
    · intro hentries
      exact ⟨t.entries, hentries, rfl⟩

/-- Tables of variables. -/
def vars : Form Variables where
  toJson := Variables.toJson
  ofJson? := Variables.ofJson?
  Says v t := Pair "global" "actors" 0 (Slot (some ∅) text.dict.Says)
    (Slot (some ∅) text.dict.dict.Says) v t.global t.actors
  legible t := legible_pair _ _ (text.dict.legible t.global) (text.dict.dict.legible t.actors)
  says_toJson t := pair_fields (by decide) (.written (text.dict.says_toJson t.global))
    (.written (text.dict.dict.says_toJson t.actors)) 0
  ofJson?_eq_some_iff _ _ := by
    have hmake : Function.Injective2 Variables.mk := by
      rintro g g' as as' ⟨⟩
      exact ⟨rfl, rfl⟩
    exact pair_eq_some_iff (text.dict.slot_eq_some_iff _) (text.dict.dict.slot_eq_some_iff _) hmake

end Form

/-! ## Reading and writing -/

/-- What is stored. -/
inductive Kind where
  | actor
  | name
  | outcomes
  | conditions
  | vars
  deriving DecidableEq, Repr

namespace Kind

/-- The values of a kind. -/
@[reducible] def Value : Kind → Type
  | actor => Actor
  | name => QualifiedName
  | outcomes => Conditions.Entry
  | conditions => Conditions
  | vars => Variables

/-- How the values of a kind are written. -/
def form : (k : Kind) → Form k.Value
  | actor => .actor
  | name => .name
  | outcomes => .outcomes
  | conditions => .conditions
  | vars => .vars

/-- The text of a stored value. -/
def write (k : Kind) : k.Value → String := Stored.write k.form.toJson

/-- The stored value of a text. -/
def read (k : Kind) : String → Except Flaw k.Value := Stored.read k.form.ofJson?

/-- A text is read and written again. -/
def normalize (k : Kind) (s : String) : Except Flaw String := (k.read s).map k.write

variable (k : Kind)

/-- **A text is read as a value exactly if it is JSON that says the value.** -/
theorem read_eq_ok_iff {s : String} {a : k.Value} :
    k.read s = .ok a ↔ ∃ v, Json.parse s = some v ∧ k.form.Says v a := by
  unfold read Stored.read
  cases Json.parse s with
  | none => simp
  | some v =>
    have hsaid := k.form.ofJson?_eq_some_iff v a
    cases hread : k.form.ofJson? v with
    | none => simp [← hsaid, hread]
    | some b => simp [← hsaid, hread]

/-- **What is written is read back**, whatever it holds. -/
theorem read_write (a : k.Value) : k.read (k.write a) = .ok a :=
  k.read_eq_ok_iff.mpr ⟨k.form.toJson a, (k.form.legible a).parse_print, k.form.says_toJson a⟩

theorem read_normalize (s : String) : (k.normalize s >>= k.read) = k.read s := by
  unfold normalize
  cases k.read s with
  | error flaw => rfl
  | ok a => exact k.read_write a

/-- **What has been read and written once stays as it is.** -/
theorem normalize_normalize (s : String) : (k.normalize s >>= k.normalize) = k.normalize s := by
  unfold normalize
  cases k.read s with
  | error flaw => rfl
  | ok a =>
    show (k.read (k.write a)).map k.write = .ok (k.write a)
    rw [k.read_write]
    rfl

theorem normalize_eq_iff (s s' : String) :
    k.normalize s = k.normalize s' ↔ k.read s = k.read s' := by
  constructor
  · intro h
    rw [← k.read_normalize s, h, k.read_normalize]
  · intro h
    rw [normalize, h, normalize]

end Kind

/-- **Reloading changes nothing.** A text that is read has one normal form, which is read as the
same value, is its own normal form and belongs to all texts that are read alike. -/
theorem reloading_changes_nothing :
    (∀ (k : Kind) (a : k.Value), k.read (k.write a) = .ok a) ∧
    (∀ (k : Kind) (s : String) (a : k.Value),
      k.read s = .ok a ↔ ∃ v, Json.parse s = some v ∧ k.form.Says v a) ∧
    (∀ (k : Kind) (s : String),
      (k.normalize s >>= k.read) = k.read s ∧ (k.normalize s >>= k.normalize) = k.normalize s ∧
        ∀ s', k.normalize s = k.normalize s' ↔ k.read s = k.read s') ∧
    (∀ t : Conditions, ∃ t', Kind.conditions.read (Kind.conditions.write t) = .ok t' ∧
      ∀ id, t'.knows id = t.knows id ∧ ∀ actor, t'.evaluate actor id = t.evaluate actor id) ∧
    ∀ t : Variables, ∃ t', Kind.vars.read (Kind.vars.write t) = .ok t' ∧
      ∀ name, t'.knows name = t.knows name ∧
        ∀ actor, t'.resolve actor name = t.resolve actor name := by
  refine ⟨Kind.read_write, fun k s a => k.read_eq_ok_iff, fun k s => ?_, fun t => ?_, fun t => ?_⟩
  · exact ⟨k.read_normalize s, k.normalize_normalize s, k.normalize_eq_iff s⟩
  · exact ⟨t, Kind.read_write .conditions t, fun _ => ⟨rfl, fun _ => rfl⟩⟩
  · exact ⟨t, Kind.read_write .vars t, fun _ => ⟨rfl, fun _ => rfl⟩⟩

/-- A record with blanks, a repeated key, an unknown field and no default. -/
example : (Kind.outcomes.normalize
    " \x7b \"actors\": \x7b\"b\": true, \"a\": true, \"b\": false\x7d, \"x\": [1]\x7d").toOption =
      some "\x7b\"default\":null,\"actors\":\x7b\"a\":true,\"b\":false\x7d\x7d" := by
  decide +kernel

end Stored

end QuestCheck
