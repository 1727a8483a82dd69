import QuestCheck.Proofs.Lines
import QuestCheck.Proofs.Phases
import QuestCheck.Proofs.Pieces
import QuestCheck.Proofs.Segments
import QuestCheck.Proofs.Substitution

/-!
# Fields that are not written

A field that is not written may as well be written with the value that stands for it then. One more
word behind a text is one more token, and the fields of an instruction do not meet: a field that is
written changes what this field means and nothing else.

* `Declaration.followedBy`, `Instruction.parse_followedBy`: one more word behind a text;
* `Instruction.LoadsAs`, `Check.result_build_of_loadsAs`: instructions that are loaded alike;
* `Check.run_congr`: checks with the same fields run alike;
* `Instruction.loadsAs_withField`, `loadsAs_withFlag`: one more named field, and the bare flag;
* `Field.Omitted`, `Field.byDefault`: a field that is not written, and how it could be;
* **`Check.omitted_fields_mean_defaults`**: both come to the same, whoever answers.
-/

namespace QuestCheck

open Procedure

variable {σ : Type} {i i' i'' : Instruction} {f g : Field}

/-! ## One more word -/

/-- The declaration with one more word behind its text. -/
def Declaration.followedBy (d : Declaration) (word : String) : Declaration :=
  { d with text := d.text ++ " " ++ word }

namespace Instruction

variable {id : QualifiedName} {text word : String} {t : Token}

theorem scan_followedBy {tokens : List Token} (htext : Token.scan text.toList = .ok tokens)
    (hword : Token.scan word.toList = .ok [t]) :
    Token.scan (text ++ " " ++ word).toList = .ok (tokens ++ [t]) := by
  have hblank := Token.scan_append_blank htext (c := ' ') (by decide) word.toList
  rw [hword] at hblank
  have hlist : (text ++ " " ++ word).toList = text.toList ++ ' ' :: word.toList := by simp
  rw [hlist, hblank]
  rfl

theorem parse_followedBy (h : parse id text = .ok i) (hword : Token.scan word.toList = .ok [t])
    {named : Dict String} (hadd : addNamed i.named t = .ok named) :
    parse id (text ++ " " ++ word) =
      .ok { i with
        source := Text.trimmed (text ++ " " ++ word)
        positional := i.positional ++ (positionalText t).toList, named } := by
  obtain ⟨kind, fields, named, hscan, hopen, hnamed, rfl⟩ := parse_eq_ok_iff.mp h
  have hall : (fields ++ [t]).foldlM addNamed ∅ = addNamed named t := by
    rw [List.foldlM_append, hnamed]
    show [t].foldlM addNamed named = _
    rw [List.foldlM_cons]
    exact bind_pure _
  have hlast : [t].filterMap positionalText = (positionalText t).toList := by
    cases ht : positionalText t with
    | none => exact List.filterMap_cons_none ht
    | some last => exact List.filterMap_cons_some ht
  refine parse_eq_ok_iff.mpr
    ⟨kind, fields ++ [t], _, scan_followedBy hscan hword, hopen, hall.trans hadd, ?_⟩
  rw [List.filterMap_append, hlast]

theorem parse_followedBy_named (h : parse id text = .ok i)
    (hword : Token.scan word.toList = .ok [t]) {key value : String}
    (hfield : t.field? = some (key, value)) (hvalue : value ≠ "") (hkey : i.named? key = none) :
    parse id (text ++ " " ++ word) =
      .ok { i with
        source := Text.trimmed (text ++ " " ++ word), named := i.named.insert key value } := by
  have hmem : key ∉ i.named := Dict.getElem?_eq_none_iff.mp hkey
  have hadd : addNamed i.named t = .ok (i.named.insert key value) := by
    rw [addNamed, hfield]
    simp only [if_neg hvalue, if_neg hmem]
  have hnone : positionalText t = none := by rw [positionalText, hfield]
  rw [parse_followedBy h hword hadd, hnone, Option.toList_none, List.append_nil]

theorem parse_followedBy_positional (h : parse id text = .ok i)
    (hword : Token.scan word.toList = .ok [t]) (hfield : t.field? = none) :
    parse id (text ++ " " ++ word) =
      .ok { i with
        source := Text.trimmed (text ++ " " ++ word)
        positional := i.positional ++ [String.ofList t.text] } := by
  have hadd : addNamed i.named t = .ok i.named := by rw [addNamed, hfield]
  rw [parse_followedBy h hword hadd, positionalText, hfield, Option.toList_some]

/-! ## Instructions that are loaded alike -/

/-- The second instruction is loaded as the first: the same is asked, warned of and rejected, and
its fields mean something if those of the first do. -/
structure LoadsAs (i i' : Instruction) : Prop where
  id_eq : i'.id = i.id
  kind_eq : i'.kind = i.kind
  warned : i'.warnOthers Check.knownKeys = i.warnOthers Check.knownKeys
  others : i'.rejectOthers 1 [Check.independentKey] = i.rejectOthers 1 [Check.independentKey]
  question : ∀ f : Field, f.question? i' = f.question? i
  meaning : ∀ f : Field, (∃ p, f.parameter i = .ok p) → ∃ p, f.parameter i' = .ok p

theorem LoadsAs.refl (i : Instruction) : i.LoadsAs i :=
  ⟨rfl, rfl, rfl, rfl, fun _ => rfl, fun _ h => h⟩

theorem LoadsAs.trans (h : i.LoadsAs i') (h' : i'.LoadsAs i'') : i.LoadsAs i'' where
  id_eq := h'.id_eq.trans h.id_eq
  kind_eq := h'.kind_eq.trans h.kind_eq
  warned := h'.warned.trans h.warned
  others := h'.others.trans h.others
  question := fun f => (h'.question f).trans (h.question f)
  meaning := fun f hf => h'.meaning f (h.meaning f hf)

theorem LoadsAs.reject_eq (h : i.LoadsAs i') {α : Type} (defect : Defect) :
    (i'.reject defect : Procedure α) = i.reject defect := by
  rw [reject, reject, h.id_eq]

theorem LoadsAs.vet_eq (h : i.LoadsAs i') (hf : ∃ p, f.parameter i = .ok p) :
    f.vet i' = f.vet i := by
  obtain ⟨p, hp⟩ := hf
  obtain ⟨p', hp'⟩ := h.meaning f ⟨p, hp⟩
  simp only [Field.vet, hp, hp', h.question, h.reject_eq]

end Instruction

namespace Check

variable {c c' : Check}

theorem compile_eq_of_loadsAs (h : i.LoadsAs i') (hc : said i = .ok c) (hc' : said i' = .ok c') :
    compile i' = (do let _ ← compile i; return c') := by
  have hvet : i'.vetAll = i.vetAll := by
    have hall : Field.vet i' = Field.vet i := by
      funext f
      obtain ⟨p, hp, -⟩ := forField_of_said hc f
      exact h.vet_eq ⟨p, hp⟩
    rw [Instruction.vetAll, hall, Instruction.vetAll]
  rw [compile_eq, compile_eq, h.kind_eq, h.warned, h.others, hvet, hc, hc', h.reject_eq]
  by_cases hkind : i.kind = kind
  · simp only [if_pos hkind, bind_assoc]
    rfl
  · simp only [if_neg hkind]
    rfl

/-- **An instruction that is loaded as one that is accepted is accepted**, whoever answers. -/
theorem result_build_of_loadsAs {h : Handler σ} {st : σ} (hloads : i.LoadsAs i')
    (hc : ((build i).run h st).result = .ok c) :
    ∃ c', said i' = .ok c' ∧ ((build i').run h st).result = .ok c' := by
  have hsaid := said_of_yields_build (yields_of_run hc)
  obtain ⟨c', hc'⟩ := exists_said fun f => hloads.meaning f <| by
    obtain ⟨p, hp, -⟩ := forField_of_said hsaid f
    exact ⟨p, hp⟩
  refine ⟨c', hc', ?_⟩
  unfold build at hc ⊢
  rw [compile_eq_of_loadsAs hloads hsaid hc', bind_assoc]
  rw [run_bind] at hc ⊢
  cases hcompile : ((compile i).run h st).result with
  | error fault =>
    rw [hcompile] at hc
    cases hc
  | ok compiled => rfl

/-- **Checks with the same fields run alike.** -/
theorem run_congr (hid : c'.id = c.id) (hskip : c'.skip = c.skip)
    (hfields : ∀ f actor, c'.forField f actor = c.forField f actor) (actor : Option Actor) :
    c'.run actor = c.run actor := by
  have hexamine : ∀ found, c'.examine found = c.examine found := by
    intro found
    have hconclude : c'.conclude found = c.conclude found := by
      funext condition expected actual
      unfold conclude
      rw [hid]
      exact if_congr Iff.rfl (congrArg (· >>= _) (hfields .success found))
        (congrArg (· >>= _) (hfields .failure found))
    unfold examine
    rw [hid, hconclude]
    refine (congrArg (· >>= _) (hfields .condition found)).trans (bind_congr fun condition => ?_)
    exact congrArg (· >>= _) (hfields .expected found)
  have hskipRun : c'.skipRun = c.skipRun := by rw [skipRun, skipRun, hid, hskip]
  unfold run
  simp only [hexamine, hskipRun]
  exact congrArg (· >>= _) (hfields .independent actor)

theorem run_eq_of_parameter_eq (hid : i'.id = i.id) (hc : said i = .ok c) (hc' : said i' = .ok c')
    (h : ∀ f : Field, f.parameter i' = f.parameter i) (actor : Option Actor) :
    c'.run actor = c.run actor := by
  refine run_congr ((id_of_said hc').trans (hid.trans (id_of_said hc).symm))
    ((skip_of_said hc').trans (skip_of_said hc).symm) (fun f actor => ?_) actor
  obtain ⟨p, hp, hrun⟩ := forField_of_said hc f
  obtain ⟨p', hp', hrun'⟩ := forField_of_said hc' f
  rw [h, hp] at hp'
  cases hp'
  rw [hrun, hrun']

end Check

/-! ## One more field -/

theorem Dict.filter_keys_insert {α : Type} (d : Dict α) {k : String} (v : α) {p : String → Bool}
    (hk : p k = false) : (d.insert k v).keys.filter p = d.keys.filter p := by
  have hsorted : ∀ e : Dict α, (e.keys.filter p).Pairwise fun a b => compare a b = .lt :=
    fun e => e.ordered_keys.filter p
  refine List.Perm.eq_of_pairwise ?_ (hsorted _) (hsorted _) ?_
  · intro a b _ _ hab hba
    exact absurd hba (Std.OrientedCmp.not_lt_of_lt hab)
  · rw [List.perm_ext_iff_of_nodup (((d.insert k v).nodup_keys).filter p) (d.nodup_keys.filter p)]
    intro a
    simp only [List.mem_filter, Std.ExtTreeMap.mem_keys, Std.ExtTreeMap.mem_insert,
      Std.LawfulEqCmp.compare_eq_iff_eq]
    refine and_congr_left fun ha => or_iff_right ?_
    rintro rfl
    exact absurd ha (Bool.eq_false_iff.mp hk)

namespace Instruction

/-- The instruction of a longer text, with one more field. -/
def withField (i : Instruction) (source : String) (f : Field) (text : String) : Instruction :=
  { i with source, named := i.named.insert f.key text }

/-- The instruction of a longer text, with the bare flag. -/
def withFlag (i : Instruction) (source : String) : Instruction :=
  { i with source, positional := i.positional ++ [Check.independentKey] }

end Instruction

namespace Field

variable {source text : String}

theorem text?_withField (hf : f ≠ .condition) (g : Field) :
    g.text? (i.withField source f text) = if g = f then some text else g.text? i := by
  have hwrite : i.withField source f text = { i.write f text with source } := by
    rw [Instruction.write, if_neg hf, Instruction.withField]
  rw [hwrite]
  exact text?_write (fun e => absurd e hf) text g

theorem parameter_withField_of_ne (hf : f ≠ .condition) (hg : g ≠ f) :
    g.parameter (i.withField source f text) = g.parameter i :=
  parameter_congr ⟨rfl, rfl, rfl⟩ ((text?_withField hf g).trans (if_neg hg))

theorem parameter_withField_self (hf : f ≠ .condition) (hliteral : reference? text = none)
    {value : f.Value} (hread : f.read text = .ok value) :
    f.parameter (i.withField source f text) = .ok (.fixed value) := by
  have htext : f.text? (i.withField source f text) = some text :=
    (text?_withField hf f).trans (if_pos rfl)
  rw [parameter_literal htext hliteral, hread]

theorem question?_of_unwritten (h : f.text? i = none) : f.question? i = none := by
  rw [question?, h]

theorem positional_ne_nil (h : ∃ p, Field.condition.parameter i = .ok p) : i.positional ≠ [] := by
  intro hnil
  have htext : Field.condition.text? i = none := by
    simp [text?, Instruction.positional?, hnil]
  obtain ⟨p, hp⟩ := h
  simp [parameter, htext, unwritten?] at hp

theorem text?_withFlag (hpositional : i.positional ≠ []) (g : Field) :
    g.text? (i.withFlag source) = g.text? i := by
  unfold text? Instruction.withFlag Instruction.positional? Instruction.named?
  simp only [List.getElem?_append_left (List.length_pos_iff.mpr hpositional)]

theorem parameter_withFlag_of_ne (hpositional : i.positional ≠ []) (hg : g ≠ .independent) :
    g.parameter (i.withFlag source) = g.parameter i := by
  refine parameter_eq_of_text?_eq rfl (text?_withFlag hpositional g) ?_
  cases g with
  | independent => exact absurd rfl hg
  | _ => rfl

theorem parameter_withFlag_self (hpositional : i.positional ≠ [])
    (h : Field.independent.text? i = none) :
    Field.independent.parameter (i.withFlag source) = .ok (.fixed true) := by
  have hmem : Check.independentKey ∈ (i.withFlag source).positional.drop 1 := by
    rw [Instruction.withFlag, List.drop_append_of_le_length (List.length_pos_iff.mpr hpositional)]
    exact List.mem_append_right _ List.mem_cons_self
  have htext : Field.independent.text? (i.withFlag source) = none :=
    (text?_withFlag hpositional .independent).trans h
  simp only [parameter, htext, unwritten?, decide_eq_true hmem]

end Field

namespace Instruction

variable {source text : String}

theorem loadsAs_withField (hf : f ≠ .condition) (hwritten : f.text? i = none)
    (hliteral : reference? text = none) {value : f.Value} (hread : f.read text = .ok value) :
    i.LoadsAs (i.withField source f text) where
  id_eq := rfl
  kind_eq := rfl
  warned := by
    have hknown := Field.key_mem_knownKeys hf
    unfold warnOthers withField
    rw [Dict.filter_keys_insert _ _ (decide_eq_false (not_not_intro hknown))]
  others := rfl
  question := by
    intro g
    by_cases hg : g = f
    · subst hg
      have htext : g.text? (i.withField source g text) = some text :=
        (Field.text?_withField hf g).trans (if_pos rfl)
      rw [Field.question?_of_unwritten hwritten, Field.question?, htext]
      simp only [hliteral, if_neg hf]
    · exact Field.question_congr ((Field.text?_withField hf g).trans (if_neg hg))
  meaning := by
    intro g hmeaning
    by_cases hg : g = f
    · subst hg
      exact ⟨_, Field.parameter_withField_self hf hliteral hread⟩
    · rwa [Field.parameter_withField_of_ne hf hg]

theorem loadsAs_withFlag (hpositional : i.positional ≠ [])
    (hwritten : Field.independent.text? i = none) : i.LoadsAs (i.withFlag source) where
  id_eq := rfl
  kind_eq := rfl
  warned := rfl
  others := by
    unfold rejectOthers withFlag
    rw [List.drop_append_of_le_length (List.length_pos_iff.mpr hpositional), List.find?_append]
    simp only [List.find?_singleton, List.mem_singleton, not_true_eq_false, decide_false,
      Bool.false_eq_true, if_false, Option.or_none]
    rfl
  question := fun g => Field.question_congr (Field.text?_withFlag hpositional g)
  meaning := by
    intro g hmeaning
    by_cases hg : g = .independent
    · subst hg
      exact ⟨_, Field.parameter_withFlag_self hpositional hwritten⟩
    · rwa [Field.parameter_withFlag_of_ne hpositional hg]

end Instruction

/-! ## Fields that are not written -/

/-- The field is not written, in no form. -/
def Field.Omitted (i : Instruction) : Field → Prop
  | condition => False
  | independent => i.flag Check.independentKey = .absent
  | f => i.named? f.key = none

/-- A field that is not written, written with the value that stands for it, a message in quotes. -/
def Field.byDefault : Field → String
  | condition => ""
  | expected => "expected:true"
  | independent => "independent:false"
  | failure => String.ofList (Token.quoteNamed (failure.key, Check.failureByDefault.raw))
  | success => String.ofList (Token.quoteNamed (success.key, Check.successByDefault.raw))

example : Field.success.byDefault = "success:\"Test '%s' on condition '%s' succeeded.\"" := rfl

theorem Instruction.flag_eq_absent_iff {key : String} :
    i.flag key = .absent ↔ i.named? key = none ∧ key ∉ i.positional.drop 1 := by
  unfold flag
  cases i.named? key with
  | some text => simp
  | none => simp

namespace Field

variable {source text : String}

theorem Omitted.ne_condition (h : f.Omitted i) : f ≠ .condition := by
  rintro rfl
  exact h

theorem Omitted.named?_eq_none (h : f.Omitted i) : i.named? f.key = none := by
  cases f with
  | condition => exact h.elim
  | independent => exact (Instruction.flag_eq_absent_iff.mp h).1
  | _ => exact h

theorem Omitted.text?_eq_none (h : f.Omitted i) : f.text? i = none :=
  (if_neg h.ne_condition).trans h.named?_eq_none

theorem Omitted.parameter_eq (h : f.Omitted i) {value : f.Value}
    (hvalue : f.unwritten? i = some value) : f.parameter i = .ok (.fixed value) := by
  simp only [parameter, h.text?_eq_none, hvalue]

theorem Omitted.withField (hg : g.Omitted i) (hgf : g ≠ f) :
    g.Omitted (i.withField source f text) := by
  have hnamed : (i.withField source f text).named? g.key = none :=
    (Dict.getElem?_insert_of_ne _ (fun e => hgf (key_injective e).symm) _).trans
      hg.named?_eq_none
  cases g with
  | condition => exact hg
  | independent =>
    exact Instruction.flag_eq_absent_iff.mpr
      ⟨hnamed, (Instruction.flag_eq_absent_iff.mp hg).2⟩
  | _ => exact hnamed

/-- **What stands for a field can be written** as one token behind a text. -/
theorem Omitted.exists_token (h : f.Omitted i) :
    ∃ (t : Token) (text : String) (value : f.Value),
      Token.scan f.byDefault.toList = .ok [t] ∧ t.field? = some (f.key, text) ∧ text ≠ "" ∧
        reference? text = none ∧ f.read text = .ok value ∧
        f.parameter i = .ok (.fixed value) := by
  cases f with
  | condition => exact h.elim
  | expected =>
    exact ⟨⟨"expected:true".toList, none⟩, "true", true, rfl, rfl, by decide, rfl, rfl,
      h.parameter_eq rfl⟩
  | independent =>
    have hbare := (Instruction.flag_eq_absent_iff.mp h).2
    refine ⟨⟨"independent:false".toList, none⟩, "false", false, rfl, rfl, by decide, rfl, rfl,
      h.parameter_eq ?_⟩
    rw [unwritten?, decide_eq_false hbare]
  | failure =>
    have hread : Template.parse Check.failureArity Check.failureByDefault.raw = .ok _ :=
      Template.parse_eq_ok_iff.mpr ⟨rfl, Check.holes_failureByDefault.le⟩
    refine ⟨_, Check.failureByDefault.raw, Check.failureByDefault, ?_, Token.field?_named rfl,
      by decide, rfl, hread, h.parameter_eq rfl⟩
    rw [byDefault, String.toList_ofList, (Token.written_named rfl).scan_eq]
  | success =>
    have hread : Template.parse Check.successArity Check.successByDefault.raw = .ok _ :=
      Template.parse_eq_ok_iff.mpr ⟨rfl, Check.holes_successByDefault.le⟩
    refine ⟨_, Check.successByDefault.raw, Check.successByDefault, ?_, Token.field?_named rfl,
      by decide, rfl, hread, h.parameter_eq rfl⟩
    rw [byDefault, String.toList_ofList, (Token.written_named rfl).scan_eq]

end Field

/-! ## Declarations with their defaults -/

variable {d : Declaration}

theorem Declaration.run_build_of_parse {h : Handler σ} (st : σ)
    (hparse : Instruction.parse d.id d.text = .ok i) :
    d.build.run h st = (Check.build i).run h st := by
  unfold Declaration.build
  rw [hparse]

namespace Field.Omitted

theorem parse_followedBy (h : f.Omitted i) (hparse : Instruction.parse d.id d.text = .ok i) :
    ∃ i', Instruction.parse d.id (d.followedBy f.byDefault).text = .ok i' ∧ i.LoadsAs i' ∧
      (∀ g : Field, g.parameter i' = g.parameter i) ∧
      ∀ g : Field, g ≠ f → g.Omitted i → g.Omitted i' := by
  obtain ⟨t, text, value, hscan, hfield, hne, hliteral, hread, hparameter⟩ := h.exists_token
  refine ⟨i.withField _ f text,
    Instruction.parse_followedBy_named hparse hscan hfield hne h.named?_eq_none,
    Instruction.loadsAs_withField h.ne_condition h.text?_eq_none hliteral hread, fun g => ?_,
    fun g hgf hg => hg.withField hgf⟩
  by_cases hg : g = f
  · subst hg
    rw [hparameter]
    exact Field.parameter_withField_self h.ne_condition hliteral hread
  · exact Field.parameter_withField_of_ne h.ne_condition hg

theorem parse_followedBy_flag (h : Field.independent.Omitted i)
    (hpositional : i.positional ≠ []) (hparse : Instruction.parse d.id d.text = .ok i)
    {word : String} (hword : word = "independent" ∨ word = "independent:true") :
    ∃ i', Instruction.parse d.id (d.followedBy word).text = .ok i' ∧ i.LoadsAs i' ∧
      Field.independent.parameter i' = .ok (.fixed true) ∧
      ∀ g : Field, g ≠ .independent → g.parameter i' = g.parameter i := by
  have hwritten := h.text?_eq_none
  rcases hword with rfl | rfl
  · -- the bare flag is one more positional field
    have hlonger : Instruction.parse d.id (d.followedBy "independent").text =
        .ok (i.withFlag (Text.trimmed (d.followedBy "independent").text)) :=
      Instruction.parse_followedBy_positional (t := ⟨"independent".toList, none⟩) hparse rfl rfl
    exact ⟨_, hlonger, Instruction.loadsAs_withFlag hpositional hwritten,
      Field.parameter_withFlag_self hpositional hwritten,
      fun g hg => Field.parameter_withFlag_of_ne hpositional hg⟩
  · have hread : Field.independent.read "true" = .ok true := rfl
    have hlonger : Instruction.parse d.id (d.followedBy "independent:true").text =
        .ok (i.withField (Text.trimmed (d.followedBy "independent:true").text) .independent "true") :=
      Instruction.parse_followedBy_named (t := ⟨"independent:true".toList, none⟩) hparse rfl rfl
        (by decide) h.named?_eq_none
    exact ⟨_, hlonger, Instruction.loadsAs_withField h.ne_condition hwritten rfl hread,
      Field.parameter_withField_self h.ne_condition rfl hread,
      fun g hg => Field.parameter_withField_of_ne h.ne_condition hg⟩

end Field.Omitted

theorem Field.parse_followedBy_all {fs : List Field} (hnodup : fs.Nodup)
    (homitted : ∀ f ∈ fs, f.Omitted i) (hparse : Instruction.parse d.id d.text = .ok i) :
    let d' := (fs.map Field.byDefault).foldl Declaration.followedBy d
    ∃ i', Instruction.parse d'.id d'.text = .ok i' ∧ i.LoadsAs i' ∧
      ∀ g : Field, g.parameter i' = g.parameter i := by
  induction fs generalizing d i with
  | nil => exact ⟨i, hparse, .refl i, fun _ => rfl⟩
  | cons f fs ih =>
    obtain ⟨hf, hfs⟩ := List.forall_mem_cons.mp homitted
    obtain ⟨hfresh, hnodup⟩ := List.nodup_cons.mp hnodup
    obtain ⟨i₁, hparse₁, hloads, hparameter, hkeeps⟩ := hf.parse_followedBy hparse
    have hrest : ∀ g ∈ fs, g.Omitted i₁ := fun g hg =>
      hkeeps g (fun e => hfresh (e ▸ hg)) (hfs g hg)
    obtain ⟨i', hparse', hloads', hparameter'⟩ :=
      ih (d := d.followedBy f.byDefault) hnodup hrest hparse₁
    exact ⟨i', hparse', hloads.trans hloads', fun g => (hparameter' g).trans (hparameter g)⟩

namespace Check

theorem forRun_independent_of_said {c : Check} {value : Bool} (hc : said i = .ok c)
    (h : Field.independent.parameter i = .ok (.fixed value)) (actor : Option Actor) :
    c.independent.forRun actor = .done value := by
  obtain ⟨p, hp, hrun⟩ := forField_of_said hc .independent
  rw [h] at hp
  cases hp
  exact hrun actor

/-- **A field that is not written means what stands for it.** With any unwritten fields written as
what stands for them, in any order, a declaration is built as well, and the checks run alike. The
bare flag and the flag with the word for yes run alike, too. -/
theorem omitted_fields_mean_defaults {h : Handler σ} {st : σ} {c : Check}
    (hparse : Instruction.parse d.id d.text = .ok i) (hc : (d.build.run h st).result = .ok c) :
    (∀ fs : List Field, fs.Nodup → (∀ f ∈ fs, f.Omitted i) →
        ∃ c', (((fs.map Field.byDefault).foldl Declaration.followedBy d).build.run h st).result =
            .ok c' ∧
          ∀ (τ : Type) (h' : Handler τ) (st' : τ) (actor : Option Actor),
            (c'.run actor).run h' st' = (c.run actor).run h' st') ∧
      (Field.independent.Omitted i →
        ∃ c₁ c₂, ((d.followedBy "independent").build.run h st).result = .ok c₁ ∧
          ((d.followedBy "independent:true").build.run h st).result = .ok c₂ ∧
          (∀ (τ : Type) (h' : Handler τ) (st' : τ) (actor : Option Actor),
            (c₁.run actor).run h' st' = (c₂.run actor).run h' st') ∧
          ∀ actor, c₁.independent.forRun actor = .done true ∧
            c₂.independent.forRun actor = .done true ∧
            c.independent.forRun actor = .done false) := by
  rw [Declaration.run_build_of_parse st hparse] at hc
  have hsaid := said_of_yields_build (yields_of_run hc)
  refine ⟨fun fs hnodup homitted => ?_, fun homitted => ?_⟩
  · obtain ⟨i', hparse', hloads, hparameter⟩ :=
      Field.parse_followedBy_all hnodup homitted hparse
    obtain ⟨c', hsaid', hc'⟩ := result_build_of_loadsAs hloads hc
    refine ⟨c', (congrArg Outcome.result (Declaration.run_build_of_parse st hparse')).trans hc',
      fun τ h' st' actor => ?_⟩
    rw [run_eq_of_parameter_eq hloads.id_eq hsaid hsaid' hparameter actor]
  · have hpositional := Field.positional_ne_nil (i := i) <| by
      obtain ⟨p, hp, -⟩ := forField_of_said hsaid .condition
      exact ⟨p, hp⟩
    have hfalse : Field.independent.unwritten? i = some false := by
      rw [Field.unwritten?, decide_eq_false (Instruction.flag_eq_absent_iff.mp homitted).2]
    obtain ⟨i₁, hparse₁, hloads₁, htrue₁, hothers₁⟩ :=
      homitted.parse_followedBy_flag hpositional hparse (.inl rfl)
    obtain ⟨i₂, hparse₂, hloads₂, htrue₂, hothers₂⟩ :=
      homitted.parse_followedBy_flag hpositional hparse (.inr rfl)
    obtain ⟨c₁, hsaid₁, hc₁⟩ := result_build_of_loadsAs hloads₁ hc
    obtain ⟨c₂, hsaid₂, hc₂⟩ := result_build_of_loadsAs hloads₂ hc
    have hsame : ∀ f : Field, f.parameter i₁ = f.parameter i₂ := by
      intro f
      by_cases hf : f = .independent
      · subst hf
        rw [htrue₁, htrue₂]
      · rw [hothers₁ f hf, hothers₂ f hf]
    refine ⟨c₁, c₂, (congrArg Outcome.result (Declaration.run_build_of_parse st hparse₁)).trans hc₁,
      (congrArg Outcome.result (Declaration.run_build_of_parse st hparse₂)).trans hc₂,
      fun τ h' st' actor => ?_, fun actor => ⟨?_, ?_, ?_⟩⟩
    · rw [run_eq_of_parameter_eq (hloads₁.id_eq.trans hloads₂.id_eq.symm) hsaid₂ hsaid₁ hsame actor]
    · exact forRun_independent_of_said hsaid₁ htrue₁ actor
    · exact forRun_independent_of_said hsaid₂ htrue₂ actor
    · exact forRun_independent_of_said hsaid (homitted.parameter_eq hfalse) actor

/-- An outcome and a flag that are not written. -/
theorem omitted_fields_mean_defaults_gold :
    let d : Declaration := ⟨⟨none, "t1"⟩, "test hasGold"⟩
    let d' : Declaration := ⟨⟨none, "t1"⟩, "test hasGold expected:true independent:false"⟩
    let s : Surroundings := ⟨(Conditions.empty.setDefault "hasGold" true).source, .none⟩
    ∃ c c', (d.build.run s.handler .empty).result = .ok c ∧
      (d'.build.run s.handler .empty).result = .ok c' ∧
      (c'.run (some ⟨"P1"⟩)).run s.handler .empty = (c.run (some ⟨"P1"⟩)).run s.handler .empty := by
  intro d d' s
  let i : Instruction := ⟨⟨none, "t1"⟩, "test hasGold", "test", ["hasGold"], ∅⟩
  have hparse : Instruction.parse ⟨none, "t1"⟩ "test hasGold" = .ok i := by rfl
  have hbuild : d.build.run s.handler .empty = (build i).run s.handler .empty :=
    Declaration.run_build_of_parse (d := d) Log.empty hparse
  have homitted : ∀ f ∈ [Field.expected, .independent], f.Omitted i :=
    List.forall_mem_cons.mpr ⟨rfl, List.forall_mem_singleton.mpr rfl⟩
  cases hc : ((build i).run s.handler .empty).result with
  | error fault => cases hc
  | ok c =>
    rw [← hbuild] at hc
    obtain ⟨c', hc', hrun⟩ := (omitted_fields_mean_defaults (d := d) hparse hc).1
      [.expected, .independent] (by decide) homitted
    exact ⟨c, c', hc, hc', hrun Log s.handler .empty (some ⟨"P1"⟩)⟩

end Check

end QuestCheck
