import QuestCheck.Proofs.Phases
import QuestCheck.Proofs.Substitution
import QuestCheck.Text.Bytes

/-!
# Fields that nothing asks for

Loading a check asks for the fields of a check only. Every other named field leaves a warning, all
of them before anything is checked, and that is all that comes of it.

* `Instruction.Unasked`: the keys of the fields that nothing asks for, in the order of their bytes;
* `Check.judge`, `Check.compile_eq_judge`: what loading does behind the warnings;
* `Check.asks_judge`: behind the warnings it is only asked what is known;
* `Instruction.withOthers`, `Check.judge_withOthers`: with further fields it is judged alike;
* `Handler.OverlooksEvents`, `run_notes`: events that change nothing for whoever answers;
* **`Check.unasked_fields_are_inert`**: further fields leave a warning each and change nothing else.
-/

namespace QuestCheck

open Procedure

variable {α σ : Type} {i i' : Instruction} {source : String} {others : Dict String}

/-! ## Warnings -/

/-- The exchange in which a field is warned of. -/
def Instruction.warning (i : Instruction) (key : String) : Exchange :=
  ⟨.note (.unknownField i.id key), ()⟩

/-- The keys are those of the fields that nothing asks for, each once, in the order of their
bytes. -/
structure Instruction.Unasked (i : Instruction) (keys : List String) : Prop where
  ascending : keys.Pairwise fun a b => Text.bytes a < Text.bytes b
  mem_iff : ∀ key, key ∈ keys ↔ key ∈ i.named ∧ key ∉ Check.knownKeys

theorem Instruction.Unasked.nodup {keys : List String} (h : i.Unasked keys) : keys.Nodup := by
  refine h.ascending.imp fun {a b} hlt => ?_
  rintro rfl
  exact List.lt_irrefl _ hlt

theorem Instruction.Unasked.unique {keys keys' : List String} (h : i.Unasked keys)
    (h' : i.Unasked keys') : keys = keys' := by
  have hperm : keys.Perm keys' := by
    rw [List.perm_ext_iff_of_nodup h.nodup h'.nodup]
    exact fun key => (h.mem_iff key).trans (h'.mem_iff key).symm
  refine hperm.eq_of_pairwise ?_ h.ascending h'.ascending
  exact fun a b _ _ hab hba => absurd (List.lt_trans hab hba) (List.lt_irrefl _)

theorem Instruction.unasked_filter (i : Instruction) :
    i.Unasked (i.named.keys.filter (· ∉ Check.knownKeys)) where
  ascending := by
    apply List.Pairwise.filter
    exact i.named.ordered_keys.imp Text.bytes_lt_of_compare
  mem_iff := by
    intro key
    rw [List.mem_filter, Std.ExtTreeMap.mem_keys, decide_eq_true_iff]

/-- Events leave whoever answers as they were. -/
def Handler.OverlooksEvents (h : Handler σ) : Prop := ∀ event st, (h (.note event) st).2 = st

theorem Procedure.run_notes {h : Handler σ} (hh : h.OverlooksEvents) (event : α → Event)
    (xs : List α) (st : σ) :
    (xs.forM fun x => note (event x)).run h st =
      ⟨.ok (), xs.map fun x => ⟨.note (event x), ()⟩, st⟩ := by
  induction xs with
  | nil => rfl
  | cons x xs ih =>
    -- the first event leaves the state in which the others are left
    show ((xs.forM fun x => note (event x)).run h (h (.note (event x)) st).2).after _ = _
    rw [hh, ih]
    rfl

/-! ## Behind the warnings -/

namespace Check

/-- What loading does behind the warnings: other tokens are rejected, the fields are checked, and
then the instruction has to say a check. -/
def judge (i : Instruction) : Procedure Check := do
  i.rejectOthers 1 [independentKey]
  i.vetAll
  i.accept (said i)

theorem compile_eq_judge (hkind : i.kind = kind) :
    compile i = (do
      i.warnOthers knownKeys
      judge i) := by
  rw [compile_eq, if_pos hkind]
  rfl

end Check

theorem Procedure.asks_forM {allowed : Request → Prop} {f : α → Procedure Unit} (xs : List α)
    (h : ∀ x, (f x).Asks allowed) : (xs.forM f).Asks allowed := by
  induction xs with
  | nil => trivial
  | cons x xs ih => exact (h x).bind fun _ => ih

theorem Field.asks_vet (i : Instruction) (f : Field) :
    (f.vet i).Asks fun r => r.isKnows = true := by
  unfold vet
  cases f.parameter i with
  | error defect => trivial
  | ok p =>
    cases f.question? i with
    | none => trivial
    | some q =>
      apply Asks.bind
      · cases q <;> exact ⟨rfl, fun _ => trivial⟩
      · intro known
        cases known <;> trivial

theorem Check.asks_judge (i : Instruction) : (judge i).Asks fun r => r.isKnows = true := by
  have hreject : (i.rejectOthers 1 [independentKey]).Asks fun r => r.isKnows = true := by
    unfold Instruction.rejectOthers
    split <;> trivial
  have hvet : i.vetAll.Asks fun r => r.isKnows = true := asks_forM _ (Field.asks_vet i)
  refine hreject.bind fun _ => hvet.bind fun _ => ?_
  cases said i <;> trivial

theorem Check.judge_congr (h : i.SameApart i') (htext : ∀ f : Field, f.text? i' = f.text? i) :
    judge i' = judge i := by
  have hparameter : ∀ f : Field, f.parameter i' = f.parameter i :=
    fun f => Field.parameter_congr h (htext f)
  -- whether the flag is written hangs on its text and on the bare words
  have hindependence : i'.independence = i.independence := by
    funext p
    have hnamed : i'.named? independentKey = i.named? independentKey := htext .independent
    unfold Instruction.independence Instruction.flag
    rw [hnamed, h.others]
  have hsaid : said i' = said i := by
    unfold said
    simp only [hparameter, hindependence, h.id_eq]
  have hvet : Field.vet i' = Field.vet i := by
    funext f
    simp only [Field.vet, hparameter, Field.question_congr (htext f), Instruction.reject, h.id_eq]
  simp only [judge, Instruction.rejectOthers, Instruction.vetAll, Instruction.accept, hsaid, hvet,
    Instruction.reject, h.id_eq, h.others]

/-! ## Further fields -/

/-- The instruction of another text, with further named fields. -/
def Instruction.withOthers (i : Instruction) (source : String) (others : Dict String) :
    Instruction :=
  { i with source, named := i.named ∪ others }

theorem Field.text?_withOthers (hothers : ∀ key ∈ others, key ∉ Check.knownKeys) (f : Field) :
    f.text? (i.withOthers source others) = f.text? i := by
  unfold text?
  by_cases hf : f = .condition
  · rw [if_pos hf, if_pos hf]
    rfl
  · rw [if_neg hf, if_neg hf]
    apply Std.ExtTreeMap.getElem?_union_of_not_mem_right
    exact fun hkey => hothers _ hkey (key_mem_knownKeys hf)

/-- **With further fields an instruction is judged alike.** -/
theorem Check.judge_withOthers (hothers : ∀ key ∈ others, key ∉ knownKeys) :
    judge (i.withOthers source others) = judge i :=
  judge_congr ⟨rfl, rfl, rfl⟩ (Field.text?_withOthers hothers)

namespace Instruction.Unasked

variable {keys keys' : List String}

theorem mem_withOthers_iff (h : i.Unasked keys) (h' : (i.withOthers source others).Unasked keys')
    (hothers : ∀ key ∈ others, key ∉ Check.knownKeys) (key : String) :
    key ∈ keys' ↔ key ∈ keys ∨ key ∈ others := by
  rw [h.mem_iff, h'.mem_iff, withOthers, Std.ExtTreeMap.mem_union_iff, or_and_right]
  exact or_congr_right (and_iff_left_of_imp (hothers key))

theorem perm_withOthers (h : i.Unasked keys) (h' : (i.withOthers source others).Unasked keys')
    (hothers : ∀ key ∈ others, key ∉ Check.knownKeys) (hnew : ∀ key ∈ others, key ∉ i.named) :
    keys'.Perm (keys ++ others.keys) := by
  have hnodup : (keys ++ others.keys).Nodup := by
    refine List.nodup_append.mpr ⟨h.nodup, others.nodup_keys, ?_⟩
    rintro key hkey _ hother rfl
    exact hnew key (Std.ExtTreeMap.mem_keys.mp hother) ((h.mem_iff key).mp hkey).1
  rw [List.perm_ext_iff_of_nodup h'.nodup hnodup]
  intro key
  rw [h.mem_withOthers_iff h' hothers, List.mem_append, Std.ExtTreeMap.mem_keys]

end Instruction.Unasked

namespace Check

theorem run_compile_of_kind {h : Handler σ} (hh : h.OverlooksEvents) (hkind : i.kind = kind)
    (st : σ) :
    (compile i).run h st = ((judge i).run h st).after
      ((i.named.keys.filter (· ∉ knownKeys)).map i.warning) := by
  have hwarn : (i.warnOthers knownKeys).run h st =
      ⟨.ok (), (i.named.keys.filter (· ∉ knownKeys)).map i.warning, st⟩ :=
    run_notes hh (fun key => .unknownField i.id key) _ st
  rw [compile_eq_judge hkind, run_bind, hwarn]

theorem run_compile_of_ne_kind {h : Handler σ} (hkind : i.kind ≠ kind) {st : σ} :
    (compile i).run h st =
      ⟨.error (Rejection.fault ⟨i.id.display, .wrongKind kind i.kind⟩), [], st⟩ := by
  rw [compile, if_neg hkind]
  rfl

/-- **Further fields leave a warning each and change nothing else**, whoever answers, as long as
events do not change the answers. All warnings come first, in the order of their bytes. -/
theorem unasked_fields_are_inert {h : Handler σ} (hh : h.OverlooksEvents) (i : Instruction)
    (source : String) {others : Dict String} (hothers : ∀ key ∈ others, key ∉ knownKeys) (st : σ) :
    let i' := i.withOthers source others
    let o := (compile i).run h st
    let o' := (compile i').run h st
    o'.result = o.result ∧ o'.state = o.state ∧
      (i.kind = kind → ∃ keys keys' calls,
        i.Unasked keys ∧ i'.Unasked keys' ∧ (∀ key, key ∈ keys' ↔ key ∈ keys ∨ key ∈ others) ∧
        ((∀ key ∈ others, key ∉ i.named) → keys'.Perm (keys ++ others.keys)) ∧
        o.exchanges = keys.map i.warning ++ calls ∧ o'.exchanges = keys'.map i.warning ++ calls ∧
        ∀ e ∈ calls, e.request.isKnows = true) ∧
      (i.kind ≠ kind →
        o = ⟨.error (Rejection.fault ⟨i.id.display, .wrongKind kind i.kind⟩), [], st⟩ ∧
          o' = o) := by
  intro i' o o'
  by_cases hkind : i.kind = kind
  · have ho : o = _ := run_compile_of_kind hh hkind st
    have ho' : o' = _ := run_compile_of_kind (i := i') hh hkind st
    rw [judge_withOthers hothers] at ho'
    have hkeys := i.unasked_filter
    have hkeys' := i'.unasked_filter
    refine ⟨by rw [ho, ho']; rfl, by rw [ho, ho']; rfl, fun _ => ?_, fun hne => absurd hkind hne⟩
    refine ⟨_, _, ((judge i).run h st).exchanges, hkeys, hkeys',
      hkeys.mem_withOthers_iff hkeys' hothers, hkeys.perm_withOthers hkeys' hothers, ?_, ?_, ?_⟩
    · rw [ho]
      rfl
    · rw [ho']
      rfl
    · exact fun e he => (asks_judge i).of_mem (course_run h _ st) he
  · have ho : o = _ := run_compile_of_ne_kind hkind
    have ho' : o' = o := (run_compile_of_ne_kind (i := i') hkind).trans ho.symm
    exact ⟨by rw [ho'], by rw [ho'], fun h => absurd h hkind, fun _ => ⟨ho, ho'⟩⟩

/-- Two further fields beside one that nothing asks for already. -/
theorem unasked_fields_are_inert_note :
    let s := World.surroundings ⟨Conditions.empty.setDefault "hasGold" true, Variables.empty⟩
    let i : Instruction := ⟨⟨none, "t1"⟩, "test hasGold note:x", "test", ["hasGold"],
      Dict.ofPairs [("note", "x")]⟩
    let i' := i.withOthers "test hasGold note:x zeta:y alpha:z"
      (Dict.ofPairs [("zeta", "y"), ("alpha", "z")])
    let o := s.run (compile i) .empty
    let o' := s.run (compile i') .empty
    o.result.isOk = true ∧ o'.result = o.result ∧
      ∃ calls, o.exchanges = i.warning "note" :: calls ∧
        o'.exchanges = i.warning "alpha" :: i.warning "note" :: i.warning "zeta" :: calls ∧
        ∀ e ∈ calls, e.request.isKnows = true := by
  intro s i i' o o'
  have hothers : ∀ key ∈ Dict.ofPairs [("zeta", "y"), ("alpha", "z")], key ∉ knownKeys := by
    intro key hkey
    rw [Dict.ofPairs, Std.ExtTreeMap.mem_ofList] at hkey
    have hkeys : key = "zeta" ∨ key = "alpha" := by simpa using hkey
    rcases hkeys with rfl | rfl <;> decide
  have hoverlooks : s.handler.OverlooksEvents := fun _ _ => rfl
  have hok : o.result.isOk = true := by rfl
  have hnote : i.Unasked ["note"] := i.unasked_filter
  have hnotes : i'.Unasked ["alpha", "note", "zeta"] := i'.unasked_filter
  obtain ⟨hresult, -, hkind, -⟩ := unasked_fields_are_inert hoverlooks i i'.source hothers .empty
  obtain ⟨keys, keys', calls, hkeys, hkeys', -, -, hcalls, hcalls', hknows⟩ := hkind rfl
  obtain rfl := hkeys.unique hnote
  obtain rfl := hkeys'.unique hnotes
  exact ⟨hok, hresult, calls, hcalls, hcalls', hknows⟩

end Check

end QuestCheck
