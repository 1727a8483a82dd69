import Mathlib.Data.List.Chain
import QuestCheck.Template

/-!
# Segments of a message

A message is made of runs of plain text and holes. Where no run is empty and no two of them are
neighbours there is exactly one such list for a message, and one text in which it is written.

* `Canonical`: no run is empty, and no two are neighbours;
* `render`, the text in which segments are written; `weave`, their text with values in the holes;
* `spell`, the segments as single characters and holes: `spell_segments`, `segments_spell`;
* `parse_eq_ok_iff`: a text is read as the message whose written form it is;
* **`parse_renderings`**: what is read is what is written, and filling puts the values in verbatim.
-/

namespace QuestCheck.Template

/-! ## Lists of segments -/

/-- No run of plain text is empty, and no two of them are neighbours. -/
structure Canonical (segs : List Segment) : Prop where
  nonempty : ∀ text, .literal text ∈ segs → text ≠ ""
  apart : segs.IsChain fun a b => a = .hole ∨ b = .hole

/-- The written form of a segment: a percent sign of a run is doubled, and a hole is `%s`. -/
def Segment.render : Segment → List Char
  | literal text => text.toList.flatMap fun c => if c = '%' then ['%', '%'] else [c]
  | hole => ['%', 's']

/-- The text in which segments are written. -/
def render (segs : List Segment) : String := String.ofList (segs.flatMap Segment.render)

/-- What a segment says behind some holes: its own text, or the value that is next, if there is
one. -/
def Segment.say (values : List String) (holesBefore : Nat) : Segment → String
  | literal text => text
  | hole => values.getD holesBefore ""

/-- The text of segments with the values in their holes, the first in the first and so on. -/
def weave (segs : List Segment) (values : List String) : String :=
  String.join (segs.mapIdx fun index seg => seg.say values ((segs.take index).count .hole))

theorem canonical_nil : Canonical [] := ⟨nofun, .nil⟩

theorem canonical_hole_cons {segs : List Segment} (h : Canonical segs) :
    Canonical (.hole :: segs) := by
  refine ⟨fun text hmem => h.nonempty text ?_, List.isChain_cons.mpr ⟨fun _ _ => .inl rfl, h.apart⟩⟩
  simpa using hmem

theorem canonical_of_cons {seg : Segment} {segs : List Segment} (h : Canonical (seg :: segs)) :
    Canonical segs :=
  ⟨fun text hmem => h.nonempty text (List.mem_cons_of_mem seg hmem),
    (List.isChain_cons.mp h.apart).2⟩

theorem head?_of_canonical_literal {text : String} {segs : List Segment}
    (h : Canonical (.literal text :: segs)) : ∀ seg, segs.head? = some seg → seg = .hole := by
  intro seg hhead
  rcases (List.isChain_cons.mp h.apart).1 seg hhead with hliteral | hhole
  · cases hliteral
  · exact hhole

theorem canonical_extend (c : Char) {segs : List Segment} (h : Canonical segs) :
    Canonical (extend c segs) := by
  cases segs with
  | nil => exact ⟨by simp [extend], .singleton _⟩
  | cons seg rest =>
    cases seg with
    | hole => exact ⟨by simpa [extend] using h.nonempty, .cons_cons (.inr rfl) h.apart⟩
    | literal text =>
      obtain ⟨hfirst, hrest⟩ := List.isChain_cons.mp h.apart
      refine ⟨fun text' hmem => ?_, List.isChain_cons.mpr ⟨fun seg hseg => ?_, hrest⟩⟩
      · rcases List.mem_cons.mp hmem with heq | hmem
        · cases heq
          simp
        · exact h.nonempty text' (List.mem_cons_of_mem _ hmem)
      · exact .inr (head?_of_canonical_literal h seg hseg)

/-! ## Segments and their parts -/

/-- A segment as single characters, or as a hole. -/
def Segment.spell : Segment → List Part
  | literal text => text.toList.map .char
  | hole => [.hole]

/-- Segments as single characters and holes. -/
def spell (segs : List Segment) : List Part := segs.flatMap Segment.spell

theorem spell_cons (seg : Segment) (segs : List Segment) :
    spell (seg :: segs) = seg.spell ++ spell segs := List.flatMap_cons

theorem spell_extend (c : Char) (segs : List Segment) :
    spell (extend c segs) = .char c :: spell segs := by
  cases segs with
  | nil => simp [extend, spell, Segment.spell]
  | cons seg rest => cases seg <;> simp [extend, spell, Segment.spell]

theorem segments_char (c : Char) (ps : List Part) :
    segments ⟨.char c :: ps⟩ = extend c (segments ⟨ps⟩) := rfl

theorem segments_hole (ps : List Part) : segments ⟨.hole :: ps⟩ = .hole :: segments ⟨ps⟩ := rfl

theorem canonical_segments (ps : List Part) : Canonical (segments ⟨ps⟩) := by
  induction ps with
  | nil => exact canonical_nil
  | cons p ps ih =>
    cases p with
    | char c => exact canonical_extend c ih
    | hole => exact canonical_hole_cons ih

/-- **A message is made of its segments.** -/
theorem spell_segments (ps : List Part) : spell (segments ⟨ps⟩) = ps := by
  induction ps with
  | nil => rfl
  | cons p ps ih =>
    cases p with
    | char c => rw [segments_char, spell_extend, ih]
    | hole => rw [segments_hole, spell_cons, ih]; rfl

theorem segments_run {cs : List Char} (hcs : cs ≠ []) {ps : List Part}
    (h : ∀ seg, (segments ⟨ps⟩).head? = some seg → seg = .hole) :
    segments ⟨cs.map .char ++ ps⟩ = .literal (String.ofList cs) :: segments ⟨ps⟩ := by
  induction cs with
  | nil => exact absurd rfl hcs
  | cons c cs ih =>
    rw [List.map_cons, List.cons_append, segments_char]
    cases cs with
    | nil =>
      rw [List.map_nil, List.nil_append]
      generalize segments ⟨ps⟩ = segs at h
      cases segs with
      | nil => rfl
      | cons seg rest =>
        obtain rfl := h seg rfl
        rfl
    | cons d ds =>
      rw [ih (List.cons_ne_nil d ds)]
      simp only [extend, List.cons.injEq, Segment.literal.injEq, and_true]
      apply String.toList_inj.mp
      simp

/-- **Segments without empty and without neighbouring runs are found again.** -/
theorem segments_spell {segs : List Segment} (h : Canonical segs) :
    segments ⟨spell segs⟩ = segs := by
  induction segs with
  | nil => rfl
  | cons seg segs ih =>
    have hrest := ih (canonical_of_cons h)
    cases seg with
    | hole =>
      show segments ⟨.hole :: spell segs⟩ = _
      rw [segments_hole, hrest]
    | literal text =>
      have hne : text.toList ≠ [] := by
        simpa using h.nonempty text List.mem_cons_self
      have hhead := head?_of_canonical_literal h
      rw [← hrest] at hhead
      rw [spell_cons, Segment.spell, segments_run hne hhead, hrest, String.ofList_toList]

/-! ## Written forms -/

theorem flatMap_writePart_spell (segs : List Segment) :
    (spell segs).flatMap writePart = segs.flatMap Segment.render := by
  unfold spell
  rw [List.flatMap_assoc]
  refine List.flatMap_congr fun seg _ => ?_
  cases seg with
  | hole => rfl
  | literal text =>
    rw [Segment.spell, List.flatMap_map]
    rfl

theorem raw_spell (segs : List Segment) : raw ⟨spell segs⟩ = render segs := by
  rw [raw, flatMap_writePart_spell, render]

theorem holes_spell (segs : List Segment) : holes ⟨spell segs⟩ = segs.count .hole := by
  unfold holes
  induction segs with
  | nil => rfl
  | cons seg segs ih =>
    simp only [spell_cons, List.count_append, ih, List.count_cons]
    cases seg with
    | hole => simp [Segment.spell, Nat.add_comm]
    | literal text =>
      have hnone : (text.toList.map Part.char).count .hole = 0 := by
        simp [List.count_eq_zero]
      simp [Segment.spell, hnone]

/-- **A text is read as the message whose written form it is**, if that has not too many holes. -/
theorem parse_eq_ok_iff {arity : Nat} {text : String} {t : Template} :
    parse arity text = .ok t ↔ text = t.raw ∧ t.holes ≤ arity := by
  have hscan : scan text.toList = .ok t.parts ↔ text = t.raw := by
    rw [scan_eq_ok_iff, raw, ← String.toList_inj, String.toList_ofList]
  rw [← hscan]
  unfold parse
  cases scan text.toList with
  | error flaw => simp
  | ok parts =>
    simp only
    split_ifs with hholes
    · constructor
      · rintro ⟨⟩
        exact ⟨rfl, hholes⟩
      · rintro ⟨⟨⟩, -⟩
        rfl
    · refine iff_of_false nofun ?_
      rintro ⟨⟨⟩, hle⟩
      exact hholes hle

/-! ## Filling -/

theorem fillParts_run (cs : List Char) (ps : List Part) (values : List String) :
    fillParts (cs.map .char ++ ps) values = cs ++ fillParts ps values := by
  induction cs with
  | nil => rfl
  | cons c cs ih => exact congrArg (c :: ·) ih

theorem weave_literal_cons (text : String) (segs : List Segment) (values : List String) :
    weave (.literal text :: segs) values = text ++ weave segs values := by
  unfold weave
  rw [List.mapIdx_cons, String.join_cons]
  simp [Segment.say]

theorem weave_hole_cons (segs : List Segment) (values : List String) :
    weave (.hole :: segs) values = values.headD "" ++ weave segs values.tail := by
  unfold weave
  rw [List.mapIdx_cons, String.join_cons]
  congr 1
  · cases values <;> rfl
  · congr 2
    funext index seg
    cases seg with
    | literal text => rfl
    | hole => cases values <;> simp [Segment.say]

/-- **A message is filled segment by segment**, each hole with the next value. -/
theorem fill_spell (segs : List Segment) (values : List String) :
    fill ⟨spell segs⟩ values = weave segs values := by
  apply String.toList_inj.mp
  rw [fill, String.toList_ofList]
  induction segs generalizing values with
  | nil => rfl
  | cons seg segs ih =>
    rw [spell_cons]
    cases seg with
    | literal text =>
      rw [Segment.spell, fillParts_run, ih, weave_literal_cons, String.toList_append]
    | hole =>
      rw [weave_hole_cons, String.toList_append, ← ih]
      cases values <;> rfl

/-! ## Reading, writing and filling -/

theorem render_injective {segs segs' : List Segment} (h : Canonical segs) (h' : Canonical segs')
    (hrender : render segs = render segs') : segs = segs' := by
  have hscan : scan (render segs).toList = .ok (spell segs) := by
    rw [scan_eq_ok_iff, flatMap_writePart_spell, render, String.toList_ofList]
  have hscan' : scan (render segs').toList = .ok (spell segs') := by
    rw [scan_eq_ok_iff, flatMap_writePart_spell, render, String.toList_ofList]
  have hspell : spell segs = spell segs' := by
    rw [hrender, hscan'] at hscan
    exact (Except.ok.inj hscan).symm
  rw [← segments_spell h, hspell, segments_spell h']

/-- **What is read is what is written**: a text is read as the one canonical list of segments that
it is the written form of, and it is filled with the values in its holes, one after another. -/
theorem parse_renderings (arity : Nat) :
    (∀ text, (∃ t, parse arity text = .ok t) ↔
        ∃ segs, Canonical segs ∧ segs.count .hole ≤ arity ∧ render segs = text) ∧
      (∀ segs segs', Canonical segs → Canonical segs' → render segs = render segs' →
        segs = segs') ∧
      ∀ segs, Canonical segs → segs.count .hole ≤ arity →
        ∃ t, parse arity (render segs) = .ok t ∧ t.segments = segs ∧
          ∀ values, t.fill values = weave segs values := by
  have hparse : ∀ segs, segs.count .hole ≤ arity →
      parse arity (render segs) = .ok ⟨spell segs⟩ := by
    intro segs hholes
    rw [parse_eq_ok_iff, raw_spell, holes_spell]
    exact ⟨rfl, hholes⟩
  refine ⟨fun text => ⟨?_, ?_⟩, fun segs segs' h h' => render_injective h h', ?_⟩
  · rintro ⟨⟨parts⟩, ht⟩
    obtain ⟨rfl, hholes⟩ := parse_eq_ok_iff.mp ht
    refine ⟨segments ⟨parts⟩, canonical_segments parts, ?_, ?_⟩
    · rwa [← holes_spell, spell_segments]
    · rw [← raw_spell, spell_segments]
  · rintro ⟨segs, -, hholes, rfl⟩
    exact ⟨_, hparse segs hholes⟩
  · intro segs h hholes
    exact ⟨_, hparse segs hholes, segments_spell h, fill_spell segs⟩

/-- The first two of three percent signs are one of the text. -/
example : (parse 1 "50%%%s").map segments = .ok [.literal "50%", .hole] := by decide

end QuestCheck.Template
