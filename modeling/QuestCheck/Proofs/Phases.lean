import Mathlib.Data.List.Basic
import QuestCheck.Proofs.Fields
import QuestCheck.Proofs.Loading

/-!
# Loading and running are apart

Loading asks only what is known, reports nothing, and fails only because of what is written. Running
does not ask what is known, and fails because of what is written only if an answer says so.

* `Procedure.Keeps`: what may be asked, and in which faults it may end, if the answers are such;
* `Hurdle`, `Taken`: questions and defects in the order in which loading meets them, taken up to the
  first that is not passed;
* `Procedure.Faces`: a procedure asks just what its hurdles ask, and fails where one is not passed;
* `Suite.faces_load`, `keeps_load`: loading; `Check.keeps_run`: running;
* **`Suite.load_and_run_apart`**: both together, whoever answers.
-/

namespace QuestCheck

open Procedure

variable {α β σ : Type}

/-! ## Requests, answers and faults -/

/-- The request asks whether something is known. -/
def Request.isKnows : Request → Bool
  | knowsCondition _ | knowsVariable _ => true
  | _ => false

/-- The answer does not say that the written form is wrong. -/
def Exchange.Honest : Exchange → Prop
  | ⟨.evaluate .., answer⟩ => ∀ fault, answer = .error fault → ¬ fault.IsMalformed
  | ⟨.resolve .., answer⟩ => ∀ fault, answer = .error fault → ¬ fault.IsMalformed
  | _ => True

/-- The terms of a procedure: what it may ask, which answers it relies on, and in which faults it
may end then. -/
structure Terms where
  asks : Request → Prop
  trusts : Exchange → Prop
  fails : Fault → Prop

namespace Terms

/-- The terms of loading: only what is known is asked, and events are left. -/
def loading : Terms where
  asks r := r.isKnows = true ∨ ∃ event, r = .note event
  trusts _ := True
  fails := Fault.IsMalformed

/-- The terms of running: whatever the answers are, it is not asked what is known. -/
def running : Terms where
  asks r := r.isKnows = false
  trusts _ := True
  fails _ := True

/-- The terms of running among honest answers: the fault is not about the written form. -/
def honest : Terms where
  asks _ := True
  trusts := Exchange.Honest
  fails fault := ¬ fault.IsMalformed

end Terms

namespace Procedure

variable {t : Terms}

/-- The procedure keeps to the terms. -/
def Keeps (t : Terms) : Procedure α → Prop
  | done _ => True
  | fail fault => t.fails fault
  | ask r next => t.asks r ∧ ∀ answer, t.trusts ⟨r, answer⟩ → Keeps t (next answer)

theorem Keeps.bind {p : Procedure α} {f : α → Procedure β} (hp : p.Keeps t)
    (hf : ∀ a, (f a).Keeps t) : (p >>= f).Keeps t := by
  induction p with
  | done a => exact hf a
  | fail fault => exact hp
  | ask r next ih => exact ⟨hp.1, fun answer htrust => ih answer (hp.2 answer htrust)⟩

theorem keeps_note {event : Event} (h : t.asks (.note event)) : (note event).Keeps t :=
  ⟨h, fun _ _ => trivial⟩

theorem keeps_mapM {f : α → Procedure β} (xs : List α) (h : ∀ x, (f x).Keeps t) :
    (xs.mapM f).Keeps t := by
  induction xs with
  | nil => trivial
  | cons x xs ih =>
    rw [List.mapM_cons]
    exact (h x).bind fun y => ih.bind fun ys => trivial

theorem keeps_forM {f : α → Procedure Unit} (xs : List α) (h : ∀ x, (f x).Keeps t) :
    (xs.forM f).Keeps t := by
  induction xs with
  | nil => trivial
  | cons x xs ih => exact (h x).bind fun _ => ih

/-- **What keeps to the terms does so on every course** with answers that can be relied on. -/
theorem Keeps.of_course {p : Procedure α} (hp : p.Keeps t) {es : List Exchange}
    {result : Except Fault α} (h : p.Course es result) (hes : ∀ e ∈ es, t.trusts e) :
    (∀ e ∈ es, t.asks e.request) ∧ ∀ fault, result = .error fault → t.fails fault := by
  induction h with
  | done a => exact ⟨nofun, nofun⟩
  | fail fault =>
    refine ⟨nofun, ?_⟩
    rintro fault' ⟨⟩
    exact hp
  | ask rest ih =>
    obtain ⟨htrust, hrest⟩ := List.forall_mem_cons.mp hes
    obtain ⟨hasks, hfails⟩ := ih (hp.2 _ htrust) hrest
    exact ⟨List.forall_mem_cons.mpr ⟨hp.1, hasks⟩, hfails⟩

end Procedure

/-! ## Hurdles -/

/-- A hurdle of loading: a question for a field, which is passed if the answer is yes, or a defect,
which is not passed. -/
inductive Hurdle where
  | question (f : Field) (q : Question)
  | defect
  deriving DecidableEq, Repr

/-- The field for which a question is asked. -/
def Hurdle.field? : Hurdle → Option Field
  | question f _ => some f
  | defect => none

/-- A question that was asked for a field, with the answer. -/
structure Inquiry where
  field : Field
  question : Question
  known : Bool

/-- The exchange in which the question was asked. -/
def Inquiry.exchange (a : Inquiry) : Exchange := a.question.exchange a.known

/-- Hurdles are taken in order up to the first that is not passed: what was asked, and whether all
were passed. -/
inductive Taken : List Hurdle → List Inquiry → Bool → Prop
  | finished : Taken [] [] true
  | known {f : Field} {q : Question} {hs : List Hurdle} {asked : List Inquiry} {passed : Bool}
      (rest : Taken hs asked passed) : Taken (.question f q :: hs) (⟨f, q, true⟩ :: asked) passed
  | unknown {f : Field} {q : Question} {hs : List Hurdle} :
      Taken (.question f q :: hs) [⟨f, q, false⟩] false
  | defect {hs : List Hurdle} : Taken (.defect :: hs) [] false

namespace Taken

variable {hs hs' : List Hurdle} {asked asked' : List Inquiry} {passed : Bool}

theorem append (h : Taken hs asked true) (h' : Taken hs' asked' passed) :
    Taken (hs ++ hs') (asked ++ asked') passed := by
  generalize htrue : true = first at h
  induction h with
  | finished => exact h'
  | known rest ih => exact .known (ih htrue)
  | unknown => cases htrue
  | defect => cases htrue

theorem append_of_not_passed (h : Taken hs asked false) (hs' : List Hurdle) :
    Taken (hs ++ hs') asked false := by
  generalize hfalse : false = first at h
  induction h with
  | finished => cases hfalse
  | known rest ih => exact .known (ih hfalse)
  | unknown => exact .unknown
  | defect => exact .defect

theorem not_passed_of_defect (h : Taken hs asked passed) (hdefect : .defect ∈ hs) :
    passed = false := by
  induction h with
  | finished => cases hdefect
  | known rest ih =>
    rcases List.mem_cons.mp hdefect with heq | hmem
    · cases heq
    · exact ih hmem
  | unknown => rfl
  | defect => rfl

end Taken

namespace Procedure

/-- Whoever answers, the procedure asks what is known just where its hurdles are questions, in
order, and it fails exactly if one of them is not passed. -/
def Faces (hs : List Hurdle) (p : Procedure α) : Prop :=
  ∀ es result, p.Course es result → ∃ asked, Taken hs asked result.isOk ∧
    es.filter (·.request.isKnows) = asked.map Inquiry.exchange

theorem faces_done (a : α) : (done a).Faces [] := by
  intro es result h
  obtain ⟨rfl, rfl⟩ := course_done_iff.mp h
  exact ⟨[], .finished, rfl⟩

theorem faces_fail (fault : Fault) : (fail fault : Procedure α).Faces [.defect] := by
  intro es result h
  obtain ⟨rfl, rfl⟩ := course_fail_iff.mp h
  exact ⟨[], .defect, rfl⟩

theorem faces_note (event : Event) : (note event).Faces [] := by
  intro es result h
  obtain ⟨rfl, rfl⟩ := course_note_iff.mp h
  exact ⟨[], .finished, rfl⟩

theorem Faces.bind {hs hs' : List Hurdle} {p : Procedure α} {f : α → Procedure β}
    (hp : p.Faces hs) (hf : ∀ a, (f a).Faces hs') : (p >>= f).Faces (hs ++ hs') := by
  intro es result h
  rcases course_bind_iff.mp h with ⟨fault, hcourse, rfl⟩ | ⟨a, es₁, es₂, rfl, h₁, h₂⟩
  · obtain ⟨asked, htaken, hes⟩ := hp _ _ hcourse
    exact ⟨asked, htaken.append_of_not_passed hs', hes⟩
  · obtain ⟨asked, htaken, hes₁⟩ := hp _ _ h₁
    obtain ⟨asked', htaken', hes₂⟩ := hf a _ _ h₂
    refine ⟨asked ++ asked', htaken.append htaken', ?_⟩
    rw [List.filter_append, hes₁, hes₂, List.map_append]

theorem faces_mapM {hs : α → List Hurdle} {f : α → Procedure β} (xs : List α)
    (h : ∀ x, (f x).Faces (hs x)) : (xs.mapM f).Faces (xs.flatMap hs) := by
  induction xs with
  | nil => exact faces_done []
  | cons x xs ih =>
    rw [List.mapM_cons, List.flatMap_cons]
    refine (h x).bind fun y => ?_
    rw [← List.append_nil (xs.flatMap hs)]
    exact ih.bind fun ys => faces_done _

theorem faces_forM {hs : α → List Hurdle} {f : α → Procedure Unit} (xs : List α)
    (h : ∀ x, (f x).Faces (hs x)) : (xs.forM f).Faces (xs.flatMap hs) := by
  induction xs with
  | nil => exact faces_done ()
  | cons x xs ih => exact (h x).bind fun _ => ih

end Procedure

/-! ## Loading -/

/-- The hurdles of a field: a defect if the field means nothing, and else what has to be known. -/
def Field.hurdles (i : Instruction) (f : Field) : List Hurdle :=
  match f.parameter i with
  | .error _ => [.defect]
  | .ok _ => (f.question? i).toList.map (.question f)

/-- The hurdles of an instruction: those of its fields, unless it is of another kind or a token
behind the condition is no flag. -/
def Instruction.hurdles (i : Instruction) : List Hurdle :=
  if i.kind = Check.kind ∧ ∀ token ∈ i.positional.drop 1, token = Check.independentKey then
    Field.all.flatMap (Field.hurdles i)
  else [.defect]

/-- The hurdles of a suite: those of its instructions, unless it cannot be read. -/
def Suite.hurdles (package : Option String) (text : String) : List Hurdle :=
  match parse package text with
  | .error _ => [.defect]
  | .ok is => is.flatMap Instruction.hurdles

theorem Field.faces_vet (i : Instruction) (f : Field) : (f.vet i).Faces (f.hurdles i) := by
  unfold vet hurdles
  cases f.parameter i with
  | error defect => exact faces_fail _
  | ok p =>
    cases f.question? i with
    | none => exact faces_done ()
    | some q =>
      intro es result h
      rcases course_bind_iff.mp h with ⟨fault, hask, -⟩ | ⟨known, es₁, es₂, rfl, hask, hrest⟩
      · obtain ⟨known, -, hresult⟩ := Question.course_ask_iff.mp hask
        cases hresult
      · obtain ⟨known', rfl, hknown⟩ := Question.course_ask_iff.mp hask
        cases hknown
        have hknows : (q.exchange known).request.isKnows = true := by
          cases q <;> rfl
        cases known with
        | true =>
          obtain ⟨rfl, rfl⟩ := course_done_iff.mp hrest
          exact ⟨[⟨f, q, true⟩], .known .finished, by simp [hknows, Inquiry.exchange]⟩
        | false =>
          obtain ⟨rfl, rfl⟩ := course_fail_iff.mp hrest
          exact ⟨[⟨f, q, false⟩], .unknown, by simp [hknows, Inquiry.exchange]⟩

theorem Instruction.faces_warnOthers (i : Instruction) (known : List String) :
    (i.warnOthers known).Faces [] := by
  have h : (i.warnOthers known).Faces
      ((i.named.keys.filter (· ∉ known)).flatMap fun _ => []) :=
    faces_forM _ fun key => faces_note (.unknownField i.id key)
  rwa [List.flatMap_eq_nil_iff.mpr fun _ _ => rfl] at h

theorem Instruction.faces_vetAll (i : Instruction) :
    i.vetAll.Faces (Field.all.flatMap (Field.hurdles i)) :=
  faces_forM Field.all (Field.faces_vet i)

theorem Check.defect_mem_hurdles {i : Instruction} {defect : Defect}
    (h : said i = .error defect) : .defect ∈ Field.all.flatMap (Field.hurdles i) := by
  by_contra hnot
  have hmeaning : ∀ f : Field, ∃ p, f.parameter i = .ok p := by
    intro f
    cases hp : f.parameter i with
    | ok p => exact ⟨p, rfl⟩
    | error d =>
      have hf : .defect ∈ f.hurdles i := by simp [Field.hurdles, hp]
      exact absurd (List.mem_flatMap.mpr ⟨f, f.mem_all, hf⟩) hnot
  obtain ⟨c, hc⟩ := exists_said hmeaning
  cases h.symm.trans hc

theorem Check.faces_fields (i : Instruction) :
    (do
      i.vetAll
      i.accept (said i)).Faces (Field.all.flatMap (Field.hurdles i)) := by
  cases hsaid : said i with
  | ok c =>
    have h := i.faces_vetAll.bind fun _ => faces_done c
    rwa [List.append_nil] at h
  | error defect =>
    intro es result h
    rcases course_bind_iff.mp h with ⟨fault, hvet, rfl⟩ | ⟨⟨⟩, es₁, es₂, rfl, hvet, -⟩
    · exact i.faces_vetAll _ _ hvet
    · -- the fields are not all passed, since one of them means nothing
      obtain ⟨asked, htaken, -⟩ := i.faces_vetAll _ _ hvet
      cases htaken.not_passed_of_defect (defect_mem_hurdles hsaid)

theorem Check.faces_compile (i : Instruction) : (compile i).Faces i.hurdles := by
  rw [compile_eq]
  unfold Instruction.hurdles
  by_cases hkind : i.kind = kind
  · rw [if_pos hkind]
    have hwarn := i.faces_warnOthers knownKeys
    cases hfind : (i.positional.drop 1).find? (· ∉ [independentKey]) with
    | none =>
      have hreject : i.rejectOthers 1 [independentKey] = .done () := by
        simp only [Instruction.rejectOthers, hfind]
      rw [if_pos ⟨hkind, by simpa using hfind⟩, hreject]
      exact hwarn.bind fun _ => faces_fields i
    | some token =>
      have hreject : i.rejectOthers 1 [independentKey] = i.reject (.unexpectedToken token) := by
        simp only [Instruction.rejectOthers, hfind]
      have hflag := List.find?_some hfind
      rw [if_neg, hreject]
      · exact hwarn.bind fun _ => faces_fail _
      · rintro ⟨-, hothers⟩
        simp [hothers token (List.mem_of_find?_eq_some hfind)] at hflag
  · rw [if_neg hkind, if_neg fun h => hkind h.1]
    exact faces_fail _

theorem Check.faces_build (i : Instruction) : (build i).Faces i.hurdles := by
  have h := (faces_compile i).bind fun check =>
    (faces_note (.compiled check.id i.source)).bind fun _ => faces_done check
  rwa [List.append_nil, List.append_nil] at h

/-- **Loading takes its hurdles** in the order of the instructions and of their fields. -/
theorem Suite.faces_load (package : Option String) (text : String) :
    (load package text).Faces (hurdles package text) := by
  unfold load hurdles
  cases parse package text with
  | error rejection => exact faces_fail _
  | ok is => exact faces_mapM is Check.faces_build

theorem Instruction.fields_hurdles_sublist (i : Instruction) :
    (i.hurdles.filterMap Hurdle.field?).Sublist Field.all := by
  have hfield : ∀ f : Field, ((f.hurdles i).filterMap Hurdle.field?).Sublist [f] := by
    intro f
    unfold Field.hurdles
    cases f.parameter i with
    | error defect => exact List.nil_sublist _
    | ok p =>
      cases f.question? i with
      | none => exact List.nil_sublist _
      | some q => exact List.Sublist.refl _
  have hfields : ∀ fs : List Field,
      ((fs.flatMap (Field.hurdles i)).filterMap Hurdle.field?).Sublist fs := by
    intro fs
    induction fs with
    | nil => exact List.nil_sublist _
    | cons f fs ih =>
      rw [List.flatMap_cons, List.filterMap_append]
      exact (hfield f).append ih
  unfold hurdles
  split_ifs
  · exact hfields Field.all
  · exact List.nil_sublist _

/-! ## Terms of loading -/

/-- The terms allow whatever loading does: to ask what is known, to leave the events of unknown
fields and of compiled checks, and to fail because of what is written. -/
structure Terms.AllowLoading (t : Terms) : Prop where
  knows : ∀ r : Request, r.isKnows = true → t.asks r
  unknownField : ∀ id key, t.asks (.note (.unknownField id key))
  compiled : ∀ id source, t.asks (.note (.compiled id source))
  malformed : ∀ fault : Fault, fault.IsMalformed → t.fails fault

theorem Terms.loading_allowLoading : Terms.loading.AllowLoading where
  knows _ h := .inl h
  unknownField _ _ := .inr ⟨_, rfl⟩
  compiled _ _ := .inr ⟨_, rfl⟩
  malformed _ h := h

section Loading

variable {t : Terms}

theorem Instruction.keeps_reject (ht : t.AllowLoading) (i : Instruction) (defect : Defect) :
    (i.reject defect : Procedure α).Keeps t :=
  ht.malformed _ (Rejection.isMalformed_fault _)

theorem Field.keeps_vet (ht : t.AllowLoading) (i : Instruction) (f : Field) :
    (f.vet i).Keeps t := by
  unfold vet
  cases f.parameter i with
  | error defect => exact i.keeps_reject ht defect
  | ok p =>
    cases f.question? i with
    | none => trivial
    | some q =>
      have hask : q.ask.Keeps t := by
        cases q with
        | condition name => exact ⟨ht.knows _ rfl, fun _ _ => trivial⟩
        | reference name => exact ⟨ht.knows _ rfl, fun _ _ => trivial⟩
      refine hask.bind fun known => ?_
      cases known with
      | true => trivial
      | false => exact i.keeps_reject ht _

theorem Check.keeps_compile (ht : t.AllowLoading) (i : Instruction) : (compile i).Keeps t := by
  rw [compile_eq]
  by_cases hkind : i.kind = kind
  · rw [if_pos hkind]
    have hwarn : (i.warnOthers knownKeys).Keeps t :=
      keeps_forM _ fun key => keeps_note (ht.unknownField _ _)
    have hreject : (i.rejectOthers 1 [independentKey]).Keeps t := by
      unfold Instruction.rejectOthers
      split
      · exact i.keeps_reject ht _
      · trivial
    have hvet : i.vetAll.Keeps t := keeps_forM _ (Field.keeps_vet ht i)
    refine hwarn.bind fun _ => hreject.bind fun _ => hvet.bind fun _ => ?_
    cases said i with
    | ok c => trivial
    | error defect => exact i.keeps_reject ht defect
  · rw [if_neg hkind]
    exact i.keeps_reject ht _

/-- **Loading keeps to all terms that allow what it does.** -/
theorem Suite.keeps_load_of_allowLoading (ht : t.AllowLoading) (package : Option String)
    (text : String) : (load package text).Keeps t := by
  unfold load
  cases parse package text with
  | error rejection => exact ht.malformed _ rejection.isMalformed_fault
  | ok is =>
    refine keeps_mapM is fun i => ?_
    exact (Check.keeps_compile ht i).bind fun check =>
      (keeps_note (ht.compiled _ _)).bind fun _ => trivial

end Loading

theorem Suite.keeps_load (package : Option String) (text : String) :
    (load package text).Keeps .loading :=
  keeps_load_of_allowLoading Terms.loading_allowLoading package text

/-! ## Terms of running -/

namespace Check

variable {t : Terms}

theorem keeps_examine {c : Check} {found : Option Actor} (hnote : ∀ event, t.asks (.note event))
    (hreport : ∀ line, t.asks (.report line))
    (hevaluate : ∀ condition, (evaluate found condition).Keeps t)
    (hfields : ∀ f, (c.forField f found).Keeps t) : (c.examine found).Keeps t :=
  examine_of_parts (P := Keeps t) Keeps.bind (fun _ => keeps_note (hnote _))
    (fun _ _ => ⟨hreport _, fun _ _ => trivial⟩) hevaluate hfields

theorem keeps_run {c : Check} (hnote : ∀ event, t.asks (.note event))
    (hreport : ∀ line, t.asks (.report line))
    (hevaluate : ∀ actor condition, (evaluate actor condition).Keeps t)
    (hfields : ∀ f actor, (c.forField f actor).Keeps t) (actor : Option Actor) :
    (c.run actor).Keeps t :=
  run_of_parts (P := Keeps t) Keeps.bind (fun _ => keeps_note (hnote _))
    (fun _ _ => ⟨hreport _, fun _ _ => trivial⟩) hevaluate hfields actor

theorem said_of_yields_build {i : Instruction} {c : Check} (h : (build i).Yields c) :
    said i = .ok c := by
  obtain ⟨c', hcompile, hdone⟩ := yields_bind_iff.mp h
  obtain ⟨⟨⟩, -, hdone⟩ := yields_bind_iff.mp hdone
  obtain rfl := yields_done_iff.mp hdone
  rw [compile_eq] at hcompile
  by_cases hkind : i.kind = kind
  · rw [if_pos hkind] at hcompile
    obtain ⟨⟨⟩, -, hcompile⟩ := yields_bind_iff.mp hcompile
    obtain ⟨⟨⟩, -, hcompile⟩ := yields_bind_iff.mp hcompile
    obtain ⟨⟨⟩, -, haccept⟩ := yields_bind_iff.mp hcompile
    cases hsaid : said i with
    | ok c' =>
      rw [hsaid] at haccept
      rw [yields_done_iff.mp haccept]
    | error defect =>
      rw [hsaid] at haccept
      exact absurd haccept not_yields_fail
  · rw [if_neg hkind] at hcompile
    exact absurd hcompile not_yields_fail

theorem keeps_forField {i : Instruction} {c : Check} (h : said i = .ok c) {actor : Option Actor}
    (hresolve : ∀ name, (resolve actor name).Keeps t)
    (hunusable : ∀ argument reason, t.fails (.unusable argument reason)) (f : Field) :
    (c.forField f actor).Keeps t := by
  obtain ⟨p, hp, hforRun⟩ := forField_of_said h f
  rw [hforRun]
  rcases Field.parameter_eq_ok hp with ⟨value, rfl⟩ | ⟨name, -, -, rfl⟩
  · trivial
  · refine (hresolve name).bind fun text => ?_
    cases f.read text with
    | ok value => trivial
    | error cause => exact hunusable _ _

theorem keeps_running {i : Instruction} {c : Check} (h : said i = .ok c) (actor : Option Actor) :
    (c.run actor).Keeps .running := by
  have hanswer : ∀ (β : Type) (x : Except Fault β), (ofExcept x).Keeps .running := by
    intro β x
    cases x <;> trivial
  refine keeps_run (fun _ => rfl) (fun _ => rfl) (fun _ _ => ⟨rfl, fun _ _ => hanswer _ _⟩) ?_ actor
  intro f found
  exact keeps_forField h (fun _ => ⟨rfl, fun _ _ => hanswer _ _⟩) (fun _ _ => trivial) f

theorem keeps_honest {i : Instruction} {c : Check} (h : said i = .ok c) (actor : Option Actor) :
    (c.run actor).Keeps .honest := by
  have hanswer : ∀ (β : Type) (x : Except Fault β),
      (∀ fault, x = .error fault → ¬ fault.IsMalformed) → (ofExcept x).Keeps .honest := by
    intro β x hx
    cases x with
    | ok value => trivial
    | error fault => exact hx fault rfl
  refine keeps_run (fun _ => trivial) (fun _ => trivial)
    (fun _ _ => ⟨trivial, fun answer hx => hanswer _ answer hx⟩) ?_ actor
  intro f found
  refine keeps_forField h (fun _ => ⟨trivial, fun answer hx => hanswer _ answer hx⟩) ?_ f
  rintro argument reason ⟨subject, reason', heq⟩
  cases heq

end Check

theorem Suite.said_of_yields_load {package : Option String} {text : String} {checks : List Check}
    (h : (load package text).Yields checks) {c : Check} (hc : c ∈ checks) :
    ∃ i, Check.said i = .ok c := by
  unfold load at h
  cases hparse : parse package text with
  | error rejection =>
    rw [hparse] at h
    exact absurd h not_yields_fail
  | ok is =>
    rw [hparse] at h
    obtain ⟨i, -, hi⟩ := exists_mem_of_forall₂ (yields_mapM_iff.mp h) hc
    exact ⟨i, Check.said_of_yields_build hi⟩

/-! ## Both phases -/

/-- **Loading and running are apart**, whoever answers: loading asks only what is known, reports
nothing and fails only about the written form; running never asks what is known and never fails
about the written form. -/
theorem Suite.load_and_run_apart (h : Handler σ) (st : σ) (package : Option String)
    (text : String) :
    let o := (load package text).run h st
    (∀ e ∈ o.exchanges, e.request.isKnows = true ∨ ∃ event, e.request = .note event) ∧
      o.lines = [] ∧ (∀ fault, o.result = .error fault → fault.IsMalformed) ∧
      (∃ asked, Taken (hurdles package text) asked o.result.isOk ∧
        o.exchanges.filter (·.request.isKnows) = asked.map Inquiry.exchange) ∧
      (∀ i : Instruction, (i.hurdles.filterMap Hurdle.field?).Sublist Field.all) ∧
      ∀ checks, o.result = .ok checks → ∀ c ∈ checks, ∀ (actor : Option Actor) (τ : Type)
        (g : Handler τ) (u : τ),
        let r := (c.run actor).run g u
        (∀ e ∈ r.exchanges, e.request.isKnows = false) ∧
          ((∀ e ∈ r.exchanges, e.Honest) →
            ∀ fault, r.result = .error fault → ¬ fault.IsMalformed) := by
  intro o
  have hcourse : (load package text).Course o.exchanges o.result := course_run h _ st
  obtain ⟨hasks, hfails⟩ := (keeps_load package text).of_course hcourse fun _ _ => trivial
  refine ⟨hasks, ?_, hfails, faces_load package text _ _ hcourse,
    Instruction.fields_hurdles_sublist, ?_⟩
  · rw [lines_eq_reportedLines]
    refine List.filterMap_eq_nil_iff.mpr fun e he => ?_
    obtain ⟨request, answer⟩ := e
    rcases hasks _ he with hknows | ⟨event, hnote⟩
    · cases request with
      | report line => cases hknows
      | _ => rfl
    · cases hnote
      rfl
  · intro checks hok c hc actor τ g u r
    have hrun : (c.run actor).Course r.exchanges r.result := course_run g _ u
    obtain ⟨i, hsaid⟩ := said_of_yields_load (yields_of_run hok) hc
    constructor
    · exact ((Check.keeps_running hsaid actor).of_course hrun fun _ _ => trivial).1
    · intro hhonest
      exact ((Check.keeps_honest hsaid actor).of_course hrun hhonest).2

end QuestCheck
