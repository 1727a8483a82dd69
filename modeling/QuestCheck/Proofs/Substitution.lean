import QuestCheck.Proofs.Acceptance
import QuestCheck.Proofs.Agreement
import QuestCheck.Proofs.Histories

/-!
# Variables in the place of texts

A value can be written out, or as a reference to a variable that has just this text for everybody.
The text is read when the check is loaded, the variable in every run, but both by the same reading:
what loading accepts is found in the run, and what loading rejects lets the run fail.

* `Instruction.write` and `refer`: an instruction with other texts, `Field.text?_foldl`;
* `Variables.StandsFor`: a variable has the text of a field for everybody;
* `StandIns.Rewritten`: all that an instruction with references has in common with the literal one;
* `Rewritten.accepted`: it is accepted if the fields without a stand-in are;
* `Rewritten.agree_forField`: its fields find what the literal ones have been read as;
* `Surroundings.FailsBy`: a look-up of a variable lets the run fail;
* **`refer_agrees`**: both instructions come to the same.
-/

namespace QuestCheck

open Procedure Surroundings

variable {α β : Type} {i i' : Instruction} {f g : Field}

/-! ## Writing fields -/

/-- The instruction with another text of a field. -/
def Instruction.write (i : Instruction) (f : Field) (text : String) : Instruction :=
  if f = .condition then { i with positional := i.positional.set 0 text }
  else { i with named := i.named.insert f.key text }

/-- The instructions differ in the texts of their fields only. -/
structure Instruction.SameApart (i i' : Instruction) : Prop where
  id_eq : i'.id = i.id
  kind_eq : i'.kind = i.kind
  others : i'.positional.drop 1 = i.positional.drop 1

theorem Instruction.SameApart.trans {i'' : Instruction} (h : i.SameApart i')
    (h' : i'.SameApart i'') : i.SameApart i'' :=
  ⟨h'.id_eq.trans h.id_eq, h'.kind_eq.trans h.kind_eq, h'.others.trans h.others⟩

theorem Instruction.sameApart_write (i : Instruction) (f : Field) (text : String) :
    i.SameApart (i.write f text) := by
  unfold write
  by_cases hf : f = .condition
  · rw [if_pos hf]
    refine ⟨rfl, rfl, ?_⟩
    cases hpositional : i.positional <;> rfl
  · rw [if_neg hf]
    exact ⟨rfl, rfl, rfl⟩

theorem Field.key_injective (h : f.key = g.key) : f = g := by
  cases f <;> cases g <;> first | rfl | exact absurd h (by decide)

theorem Field.text?_write (h : f = .condition → f.text? i ≠ none) (text : String) (g : Field) :
    g.text? (i.write f text) = if g = f then some text else g.text? i := by
  unfold Field.text? at h ⊢
  unfold Instruction.write
  by_cases hf : f = .condition
  · subst hf
    simp only [if_true, true_imp_iff] at h ⊢
    by_cases hg : g = .condition
    · have hlength : 0 < i.positional.length := by
        simpa [Instruction.positional?, List.length_pos_iff] using h
      simp [if_pos hg, Instruction.positional?, hlength]
    · simp only [if_neg hg, Instruction.named?]
  · simp only [if_neg hf]
    by_cases hg : g = .condition
    · have hne : g ≠ f := fun e => hf (e ▸ hg)
      simp only [if_pos hg, if_neg hne, Instruction.positional?]
    · simp only [if_neg hg, Instruction.named?]
      by_cases hgf : g = f
      · rw [if_pos hgf, hgf, Dict.getElem?_insert_self]
      · rw [if_neg hgf, Dict.getElem?_insert_of_ne _ fun e => hgf (Field.key_injective e).symm]

/-- For some fields, a variable each. -/
abbrev StandIns : Type := Field → Option String

variable {v : StandIns} {t : Variables}

/-- The instruction with a reference in the place of the text of a field, if a variable stands for
it. -/
def Instruction.standIn (v : StandIns) (i : Instruction) (f : Field) : Instruction :=
  match v f with
  | some name => i.write f (Variables.reference name)
  | none => i

/-- The instruction with references in the place of all texts for which variables stand. -/
def Instruction.refer (i : Instruction) (v : StandIns) : Instruction :=
  Field.all.foldl (Instruction.standIn v) i

theorem Instruction.sameApart_foldl (v : StandIns) (fs : List Field) (i : Instruction) :
    i.SameApart (fs.foldl (standIn v) i) := by
  induction fs generalizing i with
  | nil => exact ⟨rfl, rfl, rfl⟩
  | cons f fs ih =>
    have hstep : i.SameApart (standIn v i f) := by
      unfold standIn
      cases v f with
      | none => exact ⟨rfl, rfl, rfl⟩
      | some name => exact i.sameApart_write f _
    exact hstep.trans (ih _)

theorem Field.text?_standIn (h : v f ≠ none → f.text? i ≠ none) (g : Field) :
    g.text? (i.standIn v f) =
      if g = f then ((v g).map Variables.reference).or (g.text? i) else g.text? i := by
  unfold Instruction.standIn
  cases hf : v f with
  | none =>
    by_cases hg : g = f
    · rw [if_pos hg, hg, hf]
      rfl
    · rw [if_neg hg]
  | some name =>
    rw [Field.text?_write fun _ => h (by simp [hf])]
    by_cases hg : g = f
    · rw [if_pos hg, if_pos hg, hg, hf]
      rfl
    · rw [if_neg hg, if_neg hg]

theorem Field.text?_foldl (fs : List Field) (h : ∀ f, v f ≠ none → f.text? i ≠ none) (g : Field) :
    g.text? (fs.foldl (Instruction.standIn v) i) =
      if g ∈ fs then ((v g).map Variables.reference).or (g.text? i) else g.text? i := by
  induction fs generalizing i with
  | nil => rfl
  | cons f fs ih =>
    have hstep := Field.text?_standIn (h f)
    have hpresent : ∀ g, v g ≠ none → g.text? (i.standIn v f) ≠ none := by
      intro g hg
      rw [hstep]
      by_cases hgf : g = f
      · simp [hgf, h f (hgf ▸ hg)]
      · rw [if_neg hgf]
        exact h g hg
    rw [List.foldl_cons, ih hpresent, hstep]
    -- a text that is written twice is the same reference both times
    by_cases hgf : g = f
    · subst hgf
      cases v g <;> simp
    · simp [hgf]

/-! ## Variables that stand for texts -/

/-- The variable stands for the text of the field: it has this text as its global value, no actor
has a value of it, and the text refers to no variable itself. -/
structure Variables.StandsFor (t : Variables) (i : Instruction) (f : Field) (name text : String) :
    Prop where
  valid : Text.isName name = true
  written : f.text? i = some text
  literal : reference? text = none
  global : t.global[name]? = some text
  free : ∀ actor, name ∉ t.ofActor actor

/-- Each variable stands for the text of its field. -/
def StandIns.For (v : StandIns) (t : Variables) (i : Instruction) : Prop :=
  ∀ f name, v f = some name → ∃ text, t.StandsFor i f name text

/-- All exchanges count but the look-ups of variables that stand for texts. -/
def StandIns.counts (v : StandIns) (e : Exchange) : Bool :=
  match e.request with
  | .resolve _ name => some name ∉ Field.all.map v
  | _ => true

theorem StandIns.counts_resolve {name : String} (h : v f = some name) (actor : Option Actor)
    (answer : Except Fault String) : v.counts ⟨.resolve actor name, answer⟩ = false := by
  have hmem : some name ∈ Field.all.map v := List.mem_map.mpr ⟨f, f.mem_all, h⟩
  exact decide_eq_false (not_not_intro hmem)

/-- The second instruction has a reference where a variable stands for a text of the first. -/
structure StandIns.Rewritten (v : StandIns) (i i' : Instruction) : Prop
    extends i.SameApart i' where
  texts : ∀ f : Field, f.text? i' = ((v f).map Variables.reference).or (f.text? i)

theorem StandIns.For.rewritten (h : v.For t i) (source : String) :
    v.Rewritten i { i.refer v with source } := by
  have hsame := Instruction.sameApart_foldl v Field.all i
  refine ⟨⟨hsame.id_eq, hsame.kind_eq, hsame.others⟩, fun f => ?_⟩
  have hpresent : ∀ f, v f ≠ none → f.text? i ≠ none := by
    intro f hf
    obtain ⟨name, hname⟩ := Option.ne_none_iff_exists'.mp hf
    obtain ⟨text, htext⟩ := h f name hname
    simp [htext.written]
  exact (Field.text?_foldl Field.all hpresent f).trans (if_pos f.mem_all)

/-! ## What the fields mean -/

theorem Field.parameter_literal {text : String} (htext : f.text? i = some text)
    (hliteral : reference? text = none) :
    f.parameter i = match f.read text with
      | .ok value => .ok (.fixed value)
      | .error cause => .error (.misreadField f.key cause) := by
  cases hread : f.read text with
  | ok value => simp only [Field.parameter, htext, hliteral, hread]
  | error cause => simp only [Field.parameter, htext, hliteral, hread]

theorem Field.parameter_reference {text name : String} (htext : f.text? i = some text)
    (href : reference? text = some name) :
    f.parameter i = .ok (.computed (i.lookUp f.key f.read name)) := by
  simp only [Field.parameter, htext, href]

theorem Field.question_reference {text name : String} (htext : f.text? i = some text)
    (href : reference? text = some name) : f.question? i = some (.reference name) := by
  simp only [Field.question?, htext, href]

theorem Field.parameter_eq_of_text?_eq (hid : i'.id = i.id) (htext : f.text? i' = f.text? i)
    (hunwritten : f.unwritten? i' = f.unwritten? i) : f.parameter i' = f.parameter i := by
  have hlookUp : ∀ name, i'.lookUp f.key f.read name = i.lookUp f.key f.read name := by
    intro name
    unfold Instruction.lookUp
    rw [hid]
  unfold Field.parameter
  simp only [htext, hlookUp, hunwritten]

theorem Field.parameter_congr (h : i.SameApart i') (htext : f.text? i' = f.text? i) :
    f.parameter i' = f.parameter i := by
  refine Field.parameter_eq_of_text?_eq h.id_eq htext ?_
  unfold Field.unwritten?
  rw [h.others]

theorem Field.question_congr (htext : f.text? i' = f.text? i) : f.question? i' = f.question? i := by
  unfold Field.question?
  rw [htext]

theorem Field.Vetted.congr {s : Surroundings} (hf : f.Vetted s i) (h : i.SameApart i')
    (htext : f.text? i' = f.text? i) : f.Vetted s i' := by
  refine ⟨?_, ?_⟩
  · rw [Field.parameter_congr h htext]
    exact hf.meaning
  · rw [Field.question_congr htext]
    exact hf.known

/-- The text of the field is no value of its kind. -/
def Field.Misread (i : Instruction) (f : Field) (cause : Misreading) : Prop :=
  ∃ text, f.text? i = some text ∧ reference? text = none ∧ f.read text = .error cause

theorem Field.Misread.parameter_eq {cause : Misreading} (h : f.Misread i cause) :
    f.parameter i = .error (.misreadField f.key cause) := by
  obtain ⟨text, htext, hliteral, hread⟩ := h
  rw [Field.parameter_literal htext hliteral, hread]

/-! ## Look-ups -/

variable {s : Surroundings} {read : Reading α} {actor : Option Actor} {name text : String}

theorem Instruction.result_lookUp (i : Instruction) (field : String)
    (h : s.vars.resolve actor name = .ok text) :
    s.result (i.lookUp field read name actor) = match read text with
      | .ok value => .ok value
      | .error cause => .error (.unusable (i.id.display ++ "." ++ field) cause.message) := by
  have hresolve : s.result (resolve actor name) = .ok text := (s.result_resolve actor name).trans h
  unfold lookUp
  rw [result_bind_of_ok hresolve]
  cases read text <;> rfl

theorem Instruction.exchanges_lookUp (i : Instruction) (field : String) :
    s.exchanges (i.lookUp field read name actor) =
      [⟨.resolve actor name, s.vars.resolve actor name⟩] := by
  have hresolve := s.result_resolve actor name
  unfold lookUp
  cases hvalue : s.vars.resolve actor name with
  | error fault =>
    rw [hvalue] at hresolve
    rw [exchanges_bind_of_error hresolve, exchanges_resolve, hvalue]
  | ok text =>
    rw [hvalue] at hresolve
    rw [exchanges_bind_of_ok hresolve, exchanges_resolve, hvalue]
    cases read text <;> rfl

/-! ## Instructions with references -/

namespace StandIns.Rewritten

variable {conditions : ConditionSource} {c c' : Check}

theorem text?_of_some (h : v.Rewritten i i') (hf : v f = some name) :
    f.text? i' = some (Variables.reference name) := by
  rw [h.texts, hf]
  rfl

theorem text?_of_none (h : v.Rewritten i i') (hf : v f = none) : f.text? i' = f.text? i := by
  rw [h.texts, hf]
  rfl

theorem parameter_of_some (h : v.Rewritten i i') (hf : v f = some name)
    (hvalid : Text.isName name = true) :
    f.parameter i' = .ok (.computed (i'.lookUp f.key f.read name)) :=
  Field.parameter_reference (h.text?_of_some hf) (reference?_eq_some_iff.mpr ⟨rfl, hvalid⟩)

/-- **An instruction with references is accepted** if the fields that stay as they are are. -/
theorem accepted (h : v.Rewritten i i') (hv : v.For t i) (hkind : i.kind = Check.kind)
    (hothers : ∀ token ∈ i.positional.drop 1, token = Check.independentKey)
    (hvetted : ∀ f, v f = none → f.Vetted ⟨conditions, t.source⟩ i) :
    ∃ c', Check.Accepted ⟨conditions, t.source⟩ i' c' := by
  refine Check.exists_accepted_iff.mpr ⟨h.kind_eq.trans hkind, ?_, fun f => ?_⟩
  · rw [h.others]
    exact hothers
  · cases hf : v f with
    | none => exact (hvetted f hf).congr h.toSameApart (h.text?_of_none hf)
    | some name =>
      obtain ⟨text, htext⟩ := hv f name hf
      have href : reference? (Variables.reference name) = some name :=
        reference?_eq_some_iff.mpr ⟨rfl, htext.valid⟩
      refine ⟨⟨_, h.parameter_of_some hf htext.valid⟩, fun q hq => ?_⟩
      rw [Field.question_reference (h.text?_of_some hf) href] at hq
      cases hq
      have hglobal : t.global.contains name = true :=
        Std.ExtTreeMap.contains_iff_mem.mpr (Dict.mem_iff_exists.mpr ⟨text, htext.global⟩)
      show (t.global.contains name || t.isActorBound name) = true
      rw [hglobal, Bool.true_or]

theorem agree_forField (h : v.Rewritten i i') (hv : v.For t i) (hc : Check.said i = .ok c)
    (hc' : Check.said i' = .ok c') (f : Field) (actor : Option Actor) :
    Agree ⟨conditions, t.source⟩ v.counts (c.forField f actor) (c'.forField f actor) := by
  obtain ⟨p, hp, hrun⟩ := Check.forField_of_said hc f
  obtain ⟨p', hp', hrun'⟩ := Check.forField_of_said hc' f
  rw [hrun, hrun']
  cases hf : v f with
  | none =>
    rw [Field.parameter_congr h.toSameApart (h.text?_of_none hf), hp] at hp'
    cases hp'
    exact .refl _
  | some name =>
    obtain ⟨text, htext⟩ := hv f name hf
    rw [h.parameter_of_some hf htext.valid] at hp'
    cases hp'
    rw [Field.parameter_literal htext.written htext.literal] at hp
    cases hread : f.read text with
    | error cause =>
      rw [hread] at hp
      cases hp
    | ok value =>
      rw [hread] at hp
      cases hp
      refine .of_done ?_ fun e he => ?_
      · rw [Parameter.forRun_computed, Instruction.result_lookUp _ _
          (Variables.resolve_of_global htext.global htext.free actor), hread]
      · rw [Parameter.forRun_computed, Instruction.exchanges_lookUp, List.mem_singleton] at he
        rw [he]
        exact v.counts_resolve hf actor _

end StandIns.Rewritten

/-! ## Look-ups that fail -/

/-- If the variable is looked up, the procedure ends in the fault. -/
def Surroundings.FailsBy (s : Surroundings) (name : String) (fault : Fault) (p : Procedure α) :
    Prop :=
  ∀ e ∈ s.exchanges p, ∀ actor, e.request = .resolve actor name → s.result p = .error fault

theorem Surroundings.FailsBy.bind {fault : Fault} {p : Procedure α} {next : α → Procedure β}
    (hp : s.FailsBy name fault p) (hnext : ∀ a, s.FailsBy name fault (next a)) :
    s.FailsBy name fault (p >>= next) := by
  intro e he actor hlooks
  cases hresult : s.result p with
  | error other =>
    rw [exchanges_bind_of_error hresult] at he
    rw [result_bind_of_error hresult]
    obtain rfl : other = fault := Except.error.inj (hresult.symm.trans (hp e he actor hlooks))
    rfl
  | ok a =>
    rw [exchanges_bind_of_ok hresult, List.mem_append] at he
    rw [result_bind_of_ok hresult]
    rcases he with he | he
    · cases hresult.symm.trans (hp e he actor hlooks)
    · exact hnext a e he actor hlooks

theorem Surroundings.FailsBy.of_single {fault : Fault} {p : Procedure α} {e : Exchange}
    (hp : s.exchanges p = [e]) (he : ∀ actor, e.request ≠ .resolve actor name) :
    s.FailsBy name fault p := by
  intro e' he' actor hlooks
  rw [hp, List.mem_singleton] at he'
  rw [he'] at hlooks
  exact absurd hlooks (he actor)

namespace Check

variable {conditions : ConditionSource} {c' : Check} {cause : Misreading}

theorem failsBy_forField (h : v.Rewritten i i') (hv : v.For t i) (hc' : said i' = .ok c')
    (hf : v f = some name) (hmisread : f.Misread i cause)
    (honly : ∀ g, g ≠ f → ¬ g.Refers i' name) (g : Field) (actor : Option Actor) :
    FailsBy ⟨conditions, t.source⟩ name (.unusable (i.id.display ++ "." ++ f.key) cause.message)
      (c'.forField g actor) := by
  obtain ⟨p, hp, hrun⟩ := forField_of_said hc' g
  rw [hrun]
  obtain ⟨text, htext⟩ := hv f name hf
  by_cases hg : g = f
  · subst hg
    rw [h.parameter_of_some hf htext.valid] at hp
    cases hp
    -- the text that is looked up is the one that is misread
    obtain ⟨text', htext', -, hread⟩ := hmisread
    obtain rfl : text = text' := Option.some.inj (htext.written.symm.trans htext')
    intro e he actor' hlooks
    rw [Parameter.forRun_computed, Instruction.result_lookUp _ _
      (Variables.resolve_of_global htext.global htext.free actor), hread, h.id_eq]
  · rcases Field.parameter_eq_ok hp with ⟨value, rfl⟩ | ⟨other, hrefers, -, rfl⟩
    · intro e he
      cases he
    · refine .of_single (Instruction.exchanges_lookUp i' _) fun found hother => ?_
      cases hother
      exact honly g hg hrefers

theorem failsBy_run (h : v.Rewritten i i') (hv : v.For t i) (hc' : said i' = .ok c')
    (hf : v f = some name) (hmisread : f.Misread i cause)
    (honly : ∀ g, g ≠ f → ¬ g.Refers i' name) (actor : Option Actor) :
    FailsBy ⟨conditions, t.source⟩ name (.unusable (i.id.display ++ "." ++ f.key) cause.message)
      (c'.run actor) :=
  run_of_parts (P := FailsBy _ name _) FailsBy.bind
    (fun event => .of_single (exchanges_note _ event) nofun) (fun _ _ => .of_single rfl nofun)
    (fun found condition => .of_single (exchanges_evaluate _ found condition) nofun)
    (failsBy_forField h hv hc' hf hmisread honly) actor

/-! ## Texts that are misread -/

/-- Nothing is wrong with the instruction but that some texts, all with a stand-in, are misread. -/
structure MisreadOnly (s : Surroundings) (v : StandIns) (i : Instruction) : Prop where
  kind_eq : i.kind = kind
  others : ∀ token ∈ i.positional.drop 1, token = independentKey
  fields : ∀ f : Field, f.Vetted s i ∨ v f ≠ none ∧ ∃ cause, f.Misread i cause
  misread : ∃ (f : Field) (cause : Misreading), f.Misread i cause

theorem MisreadOnly.rejected (h : MisreadOnly s v i) :
    ∃ (f : Field) (cause : Misreading), v f ≠ none ∧ f.Misread i cause ∧
      s.result (build i) =
        .error (Rejection.fault ⟨i.id.display, .misreadField f.key cause⟩) := by
  have hnot : ∀ {f : Field} {cause : Misreading}, f.Misread i cause → ¬ f.Vetted s i := by
    intro f cause hmisread hvetted
    obtain ⟨p, hp⟩ := hvetted.meaning
    cases hmisread.parameter_eq.symm.trans hp
  cases hvet : s.result i.vetAll with
  | ok u =>
    obtain ⟨f, cause, hmisread⟩ := h.misread
    exact absurd (Instruction.result_vetAll_eq_ok_iff.mp hvet f) (hnot hmisread)
  | error fault =>
    obtain ⟨f, -, hfault⟩ := exists_error_of_forM hvet
    have hfailed : ¬ f.Vetted s i := by
      intro hvetted
      cases hfault.symm.trans (Field.result_vet_eq_ok_iff.mpr hvetted)
    obtain ⟨hstands, cause, hmisread⟩ := (h.fields f).resolve_left hfailed
    have hreject : f.vet i = i.reject (.misreadField f.key cause) := by
      simp only [Field.vet, hmisread.parameter_eq]
    rw [hreject] at hfault
    obtain rfl : Rejection.fault ⟨i.id.display, .misreadField f.key cause⟩ = fault :=
      Except.error.inj hfault
    exact ⟨f, cause, hstands, hmisread, result_build_of_vetAll_error h.kind_eq h.others hvet⟩

/-! ## The literal instruction and the one with references -/

/-- **A variable behaves as the text that it stands for**: with references in the place of texts an
accepted instruction is accepted and runs alike, and a misread text fails only when it is looked up.
-/
theorem refer_agrees (hv : v.For t i) (conditions : ConditionSource) (source : String)
    (log : Log) :
    let s : Surroundings := ⟨conditions, t.source⟩
    let i' : Instruction := { i.refer v with source }
    (∀ c, (s.run (build i) log).result = .ok c →
        ∃ c', (s.run (build i') log).result = .ok c' ∧ ∀ actor log',
          let o := s.run (c.run actor) log'
          let o' := s.run (c'.run actor) log'
          o'.result = o.result ∧ o'.lines = o.lines ∧
            o'.exchanges.filter v.counts = o.exchanges.filter v.counts) ∧
      (MisreadOnly s v i →
        (∃ f cause, v f ≠ none ∧ f.Misread i cause ∧ (s.run (build i) log).result =
            .error (Rejection.fault ⟨i.id.display, .misreadField f.key cause⟩)) ∧
          ∃ c', (s.run (build i') log).result = .ok c' ∧
            ∀ f name cause, v f = some name → f.Misread i cause →
              (∀ g, g ≠ f → ¬ g.Refers i' name) → ∀ actor log',
                let o' := s.run (c'.run actor) log'
                (∃ e ∈ o'.exchanges, ∃ found, e.request = .resolve found name) →
                  o'.result = .error (.unusable (i.id.display ++ "." ++ f.key) cause.message)) := by
  intro s i'
  have h : v.Rewritten i i' := hv.rewritten source
  simp only [result_run, exchanges_run, lines_run]
  refine ⟨fun c hc => ?_, fun hmisread => ⟨hmisread.rejected, ?_⟩⟩
  · have hc := result_build_eq_ok_iff.mp hc
    obtain ⟨hkind, hothers, hvetted⟩ := exists_accepted_iff.mp ⟨c, hc⟩
    obtain ⟨c', hc'⟩ := h.accepted hv hkind hothers fun f _ => hvetted f
    refine ⟨c', result_build_eq_ok_iff.mpr hc', fun actor _ => ?_⟩
    have hid : c'.id = c.id :=
      (id_of_said hc'.said).trans (h.id_eq.trans (id_of_said hc.said).symm)
    have hskip : c'.skip = c.skip := (skip_of_said hc'.said).trans (skip_of_said hc.said).symm
    have hagree : Agree s v.counts (c.run actor) (c'.run actor) :=
      agree_run hid hskip (h.agree_forField hv hc.said hc'.said) actor
    exact ⟨hagree.result, hagree.lines fun _ => rfl, hagree.exchanges⟩
  · have hvetted : ∀ f, v f = none → f.Vetted s i := by
      intro f hf
      rcases hmisread.fields f with hvetted | ⟨hstands, -⟩
      · exact hvetted
      · exact absurd hf hstands
    obtain ⟨c', hc'⟩ := h.accepted hv hmisread.kind_eq hmisread.others hvetted
    refine ⟨c', result_build_eq_ok_iff.mpr hc', ?_⟩
    rintro f name cause hf hcause honly actor log' ⟨e, he, found, hlooks⟩
    exact failsBy_run h hv hc'.said hf hcause honly actor e he found hlooks

/-- A condition with a stand-in, and an outcome with one that is misread. -/
theorem refer_agrees_want :
    let t : Variables := (Variables.empty.setGlobal "who" "hasGold").setGlobal "want" "maybe"
    let conditions : ConditionSource := (Conditions.empty.setDefault "hasGold" true).source
    let s : Surroundings := ⟨conditions, t.source⟩
    let i : Instruction := ⟨⟨none, "t1"⟩, "test hasGold", "test", ["hasGold"], ∅⟩
    let j : Instruction := ⟨⟨none, "t1"⟩, "test hasGold expected:maybe", "test", ["hasGold"],
      Dict.ofPairs [("expected", "maybe")]⟩
    let v : StandIns := fun f => if f = .condition then some "who" else none
    let u : StandIns := fun f => if f = .expected then some "want" else none
    (∃ c c', (s.run (build i) .empty).result = .ok c ∧
        (s.run (build { i.refer v with source := "test %who%" }) .empty).result = .ok c' ∧
        (s.run (c'.run (some ⟨"P1"⟩)) .empty).lines = (s.run (c.run (some ⟨"P1"⟩)) .empty).lines) ∧
      ∃ c', (s.run (build { j.refer u with source := "test hasGold expected:%want%" })
          .empty).result = .ok c' ∧
        (s.run (c'.run (some ⟨"P1"⟩)) .empty).result = .error
          (.unusable "t1.expected" "Expected \"true\" or \"false\", got \"maybe\".") := by
  intro t conditions s i j v u
  have hfree : ∀ actor name, name ∉ t.ofActor actor := by
    intro actor name
    have hnone : t.ofActor actor = ∅ := by
      simp [t, Variables.ofActor, Variables.setGlobal, Variables.empty]
    simp [hnone]
  have hv : v.For t i := by
    intro f name hf
    cases f <;> cases hf
    exact ⟨"hasGold", by rfl, rfl, by rfl, by rfl, fun actor => hfree actor _⟩
  have hu : u.For t j := by
    intro f name hf
    cases f <;> cases hf
    exact ⟨"maybe", by rfl, rfl, by rfl, by rfl, fun actor => hfree actor _⟩
  have hmisread : Field.expected.Misread j (.notTruth "maybe") := ⟨"maybe", rfl, rfl, rfl⟩
  have honly : MisreadOnly s u j := by
    refine ⟨rfl, by decide, fun f => ?_, .expected, _, hmisread⟩
    cases f with
    | expected => exact .inr ⟨by decide, _, hmisread⟩
    | condition => exact .inl ⟨⟨_, rfl⟩, by rintro q ⟨⟩; rfl⟩
    | _ => exact .inl ⟨⟨_, rfl⟩, fun q hq => by cases hq⟩
  constructor
  · cases hc : (s.run (build i) .empty).result with
    | error fault => cases hc
    | ok c =>
      obtain ⟨c', hc', hrun⟩ := (refer_agrees hv conditions "test %who%" .empty).1 c hc
      exact ⟨c, c', rfl, hc', (hrun (some ⟨"P1"⟩) .empty).2.1⟩
  · obtain ⟨-, c', hc', hrun⟩ :=
      (refer_agrees hu conditions "test hasGold expected:%want%" .empty).2 honly
    have honce : ∀ g : Field, g ≠ .expected →
        ¬ g.Refers { j.refer u with source := "test hasGold expected:%want%" } "want" := by
      rintro g hg ⟨text, htext, href⟩
      cases g with
      | expected => exact hg rfl
      | condition => cases htext; cases href
      | _ => cases htext
    have hlooked : ∀ c', said { j.refer u with source := "test hasGold expected:%want%" } = .ok c' →
        ∃ e ∈ (s.run (c'.run (some ⟨"P1"⟩)) .empty).exchanges,
          ∃ found, e.request = .resolve found "want" := by
      rintro c' ⟨⟩
      exact ⟨⟨.resolve (some ⟨"P1"⟩) "want", .ok "maybe"⟩, List.mem_cons_self, _, rfl⟩
    have hsaid := (result_build_eq_ok_iff.mp hc').said
    exact ⟨c', hc', hrun .expected "want" _ rfl hmisread honce _ _ (hlooked c' hsaid)⟩

end Check

end QuestCheck
