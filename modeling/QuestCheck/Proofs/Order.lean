import Mathlib.Data.List.Nodup
import QuestCheck.Proofs.Colons
import QuestCheck.Proofs.Words

/-!
# The order of tokens

The tokens behind the kind of an instruction may stand in any order, as long as the positional ones
keep theirs: a named field is found by its key wherever it stands. No token is lost and none counts
twice.

* `Token.Whole`: a text that is one token as a whole; `whole_of_no_blank`, `whole_quote`,
  `Whole.append`: the ways to write one;
* `Token.Spells`, `spells_iff`: words with blanks between them;
* `Instruction.fieldsOf`, `exists_foldlM_addNamed_iff`: the named fields of tokens, and when they are
  read;
* `toList_perm_fieldsOf`: each named field comes from one token;
* `reads_of_reordered_fieldTexts`: an instruction is written with its fields in any order;
* **`Instruction.order_among_positional`**: what the order of tokens decides.
-/

namespace QuestCheck

namespace Token

/-! ## Words -/

/-- A text that is one token as a whole: it ends outside quotes, and its blanks stand in them. -/
structure Whole (word : List Char) : Prop where
  ne_nil : word ≠ []
  closed : placeAfter .plain word = .plain
  quoted : ∀ before c after, word = before ++ c :: after → Text.isBlank c = true →
    placeAfter .plain before ≠ .plain

theorem cut_eq_singleton {place : Place} {word : List Char}
    (h : ∀ before c after, word = before ++ c :: after → Text.isBlank c = true →
      placeAfter place before ≠ .plain) : cut place word = [word] := by
  induction word generalizing place with
  | nil => rfl
  | cons c rest ih =>
    have hc : ¬ (place = .plain ∧ Text.isBlank c = true) := fun hc => h [] c rest rfl hc.2 hc.1
    have hrest : cut (place.after c) rest = [rest] :=
      ih fun before d after hsplit => h (c :: before) d after (hsplit ▸ rfl)
    rw [cut_cons hc, hrest]
    rfl

theorem whole_of_no_blank {word : List Char} (hne : word ≠ [])
    (hclosed : placeAfter .plain word = .plain) (h : ∀ c ∈ word, Text.isBlank c = false) :
    Whole word where
  ne_nil := hne
  closed := hclosed
  quoted := by
    rintro before c after rfl hblank
    rw [h c (List.mem_append_right before List.mem_cons_self)] at hblank
    cases hblank

theorem placeAfter_protectChar (c : Char) :
    placeAfter .quoted (protectChar c) = .quoted := by
  unfold protectChar
  split_ifs with hc
  · rfl
  · rw [not_or] at hc
    exact (if_neg hc.1).trans (if_neg hc.2)

theorem placeAfter_protected (text : List Char) :
    placeAfter .quoted (text.flatMap protectChar) = .quoted := by
  induction text with
  | nil => rfl
  | cons c rest ih => rw [List.flatMap_cons, placeAfter_append, placeAfter_protectChar, ih]

theorem placeAfter_ne_plain_of_prefix_protectChar {c : Char} {before : List Char}
    (h : before <+: protectChar c) : placeAfter .quoted before ≠ .plain := by
  have hwhole := placeAfter_protectChar c
  unfold protectChar at h hwhole
  split_ifs at h hwhole with hc
  · rcases List.prefix_cons_iff.mp h with rfl | ⟨before, rfl, hbefore⟩
    · exact Place.noConfusion
    rcases List.prefix_cons_iff.mp hbefore with rfl | ⟨last, rfl, hlast⟩
    · exact Place.noConfusion
    · rw [List.prefix_nil.mp hlast, hwhole]
      exact Place.noConfusion
  · rcases List.prefix_cons_iff.mp h with rfl | ⟨last, rfl, hlast⟩
    · exact Place.noConfusion
    · rw [List.prefix_nil.mp hlast, hwhole]
      exact Place.noConfusion

theorem placeAfter_ne_plain_of_prefix {text before : List Char}
    (h : before <+: text.flatMap protectChar) : placeAfter .quoted before ≠ .plain := by
  induction text generalizing before with
  | nil =>
    rw [List.prefix_nil.mp h]
    exact Place.noConfusion
  | cons c rest ih =>
    rw [List.flatMap_cons] at h
    obtain ⟨after, hsplit⟩ := h
    rcases List.append_eq_append_iff.mp hsplit with ⟨middle, hc, -⟩ | ⟨middle, rfl, hrest⟩
    · exact placeAfter_ne_plain_of_prefix_protectChar ⟨middle, hc.symm⟩
    · rw [placeAfter_append, placeAfter_protectChar]
      exact ih ⟨after, hrest.symm⟩

theorem whole_quote (text : List Char) : Whole (quote text) where
  ne_nil := List.cons_ne_nil _ _
  closed := by
    have hopen : Place.plain.after '"' = .quoted := rfl
    rw [quote, placeAfter_cons, hopen, placeAfter_append, placeAfter_protected]
    rfl
  quoted := by
    intro before c after hsplit hblank
    have hc : c ≠ '"' := ne_quote_of_isBlank hblank
    cases before with
    | nil => exact absurd (List.cons.inj hsplit).1.symm hc
    | cons d before =>
      obtain ⟨rfl, hrest⟩ := List.cons.inj hsplit
      suffices hprefix : before <+: text.flatMap protectChar from
        placeAfter_ne_plain_of_prefix hprefix
      rcases List.append_eq_append_iff.mp hrest with ⟨middle, rfl, hlast⟩ | ⟨middle, htext, -⟩
      · -- behind the protected text there is no blank
        have hmem : c ∈ middle ++ c :: after := List.mem_append_right middle List.mem_cons_self
        rw [← hlast] at hmem
        exact absurd (List.mem_singleton.mp hmem) hc
      · exact ⟨middle, htext.symm⟩

theorem Whole.append {v w : List Char} (hv : Whole v) (hw : Whole w) : Whole (v ++ w) where
  ne_nil := fun h => hv.ne_nil (List.append_eq_nil_iff.mp h).1
  closed := by rw [placeAfter_append, hv.closed, hw.closed]
  quoted := by
    intro before c after hsplit hblank
    rcases List.append_eq_append_iff.mp hsplit with ⟨middle, rfl, hw'⟩ | ⟨middle, rfl, hc⟩
    · rw [placeAfter_append, hv.closed]
      exact hw.quoted middle c after hw' hblank
    · cases middle with
      | nil =>
        have hfirst := hw.quoted [] c after hc.symm hblank
        exact absurd rfl hfirst
      | cons d middle =>
        obtain ⟨rfl, -⟩ := List.cons.inj hc
        exact hv.quoted before c middle rfl hblank

/-! ## Words with blanks between them -/

/-- The text is made of the words, with blanks between them and around them. -/
inductive Spells : List Char → List (List Char) → Prop
  | nil : Spells [] []
  | blank {c : Char} {text : List Char} {words : List (List Char)} (hc : Text.isBlank c = true)
      (h : Spells text words) : Spells (c :: text) words
  | word {w rest : List Char} {words : List (List Char)} (hw : Whole w)
      (hrest : ∀ c, rest.head? = some c → Text.isBlank c = true) (h : Spells rest words) :
      Spells (w ++ rest) (w :: words)

theorem isBlank_of_head?_spaced {words : List (List Char)} (c : Char)
    (hc : (words.flatMap (' ' :: ·)).head? = some c) : Text.isBlank c = true := by
  cases words with
  | nil => cases hc
  | cons v words =>
    obtain rfl := Option.some.inj hc
    decide

theorem spells_spaced {words : List (List Char)} (h : ∀ w ∈ words, Whole w) :
    Spells (words.flatMap (' ' :: ·)) words := by
  induction words with
  | nil => exact .nil
  | cons w words ih =>
    have hwords := ih fun v hv => h v (List.mem_cons_of_mem w hv)
    rw [List.flatMap_cons, List.cons_append]
    exact .blank (by decide) (.word (h w List.mem_cons_self) isBlank_of_head?_spaced hwords)

theorem pieces_of_spells {text : List Char} {words : List (List Char)} (h : Spells text words) :
    placeAfter .plain text = .plain ∧ pieces text = words := by
  induction h with
  | nil => exact ⟨rfl, rfl⟩
  | @blank c text words hc _ ih =>
    refine ⟨?_, ?_⟩
    · rw [placeAfter_cons, after_plain_of_isBlank hc, ih.1]
    · rw [← ih.2, pieces, cut_blank hc]
      rfl
  | @word w rest words hw hrest _ ih =>
    obtain ⟨later, hcut⟩ : ∃ later, cut .plain rest = [] :: later := by
      cases rest with
      | nil => exact ⟨[], rfl⟩
      | cons c rest => exact ⟨_, cut_blank (hrest c rfl) rest⟩
    have hall : cut .plain (w ++ rest) = w :: later := by
      have hword : cut .plain w = [] ++ [w] := cut_eq_singleton hw.quoted
      have hbehind : cut (placeAfter .plain w) rest = [] :: later := by rw [hw.closed, hcut]
      rw [cut_append hword hbehind, List.append_nil, List.nil_append]
    refine ⟨?_, ?_⟩
    · rw [placeAfter_append, hw.closed, ih.1]
    · rw [← ih.2, pieces, pieces, hall, hcut]
      simp [hw.ne_nil]

/-- The blanks of the first piece stand in quotes, and it ends at a blank outside quotes or with the
text. -/
theorem exists_of_cut_eq_cons {place : Place} {text piece : List Char} {later : List (List Char)}
    (h : cut place text = piece :: later) :
    ∃ rest, text = piece ++ rest ∧
      (∀ before c after, piece = before ++ c :: after → Text.isBlank c = true →
        placeAfter place before ≠ .plain) ∧
      (rest = [] ∧ later = [] ∨ ∃ c behind, rest = c :: behind ∧ Text.isBlank c = true ∧
        placeAfter place piece = .plain ∧ later = cut .plain behind) := by
  induction text generalizing place piece later with
  | nil =>
    obtain ⟨rfl, rfl⟩ := List.cons.inj h
    exact ⟨[], rfl, by simp, .inl ⟨rfl, rfl⟩⟩
  | cons c rest ih =>
    by_cases hblank : place = .plain ∧ Text.isBlank c = true
    · obtain ⟨rfl, hc⟩ := hblank
      rw [cut_blank hc] at h
      obtain ⟨rfl, rfl⟩ := List.cons.inj h
      exact ⟨c :: rest, rfl, by simp, .inr ⟨c, rest, rfl, hc, rfl, rfl⟩⟩
    · obtain ⟨first, others, hcut⟩ := exists_cut_eq_cons (place.after c) rest
      rw [cut_cons hblank, hcut] at h
      obtain ⟨rfl, rfl⟩ := List.cons.inj h
      obtain ⟨behind, rfl, hquoted, hend⟩ := ih hcut
      refine ⟨behind, rfl, ?_, hend⟩
      intro before d after hsplit hd
      cases before with
      | nil =>
        obtain ⟨rfl, -⟩ := List.cons.inj hsplit
        exact fun hplain => hblank ⟨hplain, hd⟩
      | cons e before =>
        obtain ⟨rfl, hfirst⟩ := List.cons.inj hsplit
        exact hquoted before d after hfirst hd

theorem spells_pieces {text : List Char} (h : placeAfter .plain text = .plain) :
    Spells text (pieces text) := by
  induction hlength : text.length using Nat.strongRecOn generalizing text with
  | _ n ih =>
    obtain ⟨piece, later, hcut⟩ := exists_cut_eq_cons .plain text
    obtain ⟨rest, rfl, hquoted, hend⟩ := exists_of_cut_eq_cons hcut
    rw [pieces, hcut]
    have hrest : (∀ c, rest.head? = some c → Text.isBlank c = true) ∧
        placeAfter .plain piece = .plain ∧ Spells rest (later.filter (· ≠ [])) := by
      rcases hend with ⟨rfl, rfl⟩ | ⟨c, behind, rfl, hc, hpiece, rfl⟩
      · rw [List.append_nil] at h
        exact ⟨by simp, h, .nil⟩
      · rw [placeAfter_append, hpiece, placeAfter_cons, after_plain_of_isBlank hc] at h
        have hshorter : behind.length < n := by
          rw [← hlength, List.length_append, List.length_cons]
          omega
        exact ⟨by simpa using hc, hpiece, .blank hc (ih _ hshorter h rfl)⟩
    by_cases hempty : piece = []
    · subst hempty
      exact hrest.2.2
    · rw [List.filter_cons_of_pos (by simpa using hempty)]
      exact .word ⟨hempty, hrest.2.1, hquoted⟩ hrest.1 hrest.2.2

/-- **A text is made of words** exactly if it ends outside quotes and they are its pieces. -/
theorem spells_iff {text : List Char} {words : List (List Char)} :
    Spells text words ↔ placeAfter .plain text = .plain ∧ pieces text = words := by
  refine ⟨pieces_of_spells, ?_⟩
  rintro ⟨hclosed, rfl⟩
  exact spells_pieces hclosed

instance (text : List Char) (words : List (List Char)) : Decidable (Spells text words) :=
  decidable_of_iff' _ spells_iff

/-- **The tokens of a text are its words**, each read by itself. -/
theorem scan_of_spells {text : List Char} {words : List (List Char)} (h : Spells text words) :
    scan text = .ok (words.map ofPiece) := by
  obtain ⟨hclosed, hpieces⟩ := pieces_of_spells h
  exact scan_eq_ok_iff.mpr ⟨hclosed, by rw [hpieces]⟩

/-- The word is a positional field, or the kind. -/
def isPositional (word : List Char) : Bool := (ofPiece word).field?.isNone

/-- The same words, the positional ones in the same order. -/
def Reordered (words words' : List (List Char)) : Prop :=
  words.Perm words' ∧ words.filter isPositional = words'.filter isPositional

instance (words words' : List (List Char)) : Decidable (Reordered words words') :=
  inferInstanceAs (Decidable (_ ∧ _))

end Token

namespace Instruction

/-! ## The named fields of tokens -/

/-- The named fields among tokens, in their order. -/
def fieldsOf (ts : List Token) : List (String × String) := ts.filterMap Token.field?

theorem mem_fieldsOf_iff {ts : List Token} {p : String × String} :
    p ∈ fieldsOf ts ↔ ∃ t ∈ ts, t.field? = some p := List.mem_filterMap

/-- **When named fields are read**: none of them is empty, and all keys are new. -/
theorem exists_foldlM_addNamed_iff {ts : List Token} {named : Dict String} :
    (∃ named', ts.foldlM addNamed named = .ok named') ↔
      (∀ p ∈ fieldsOf ts, p.2 ≠ "" ∧ p.1 ∉ named) ∧ ((fieldsOf ts).map Prod.fst).Nodup := by
  induction ts generalizing named with
  | nil => simp [fieldsOf, pure, Except.pure]
  | cons t ts ih =>
    rw [List.foldlM_cons]
    cases hfield : t.field? with
    | none =>
      have hfields : fieldsOf (t :: ts) = fieldsOf ts := List.filterMap_cons_none hfield
      have hadd : addNamed named t = .ok named := by rw [addNamed, hfield]
      rw [hadd, hfields]
      exact ih
    | some p =>
      obtain ⟨key, value⟩ := p
      have hfields : fieldsOf (t :: ts) = (key, value) :: fieldsOf ts :=
        List.filterMap_cons_some hfield
      rw [hfields, List.forall_mem_cons, List.map_cons, List.nodup_cons, addNamed, hfield]
      by_cases hempty : value = ""
      · simp [hempty, bind, Except.bind]
      by_cases hmem : key ∈ named
      · simp [hempty, hmem, bind, Except.bind]
      simp only [if_neg hempty, if_neg hmem]
      refine ih.trans ?_
      -- the key of this token is new to the tokens behind it, too
      simp only [Std.ExtTreeMap.mem_insert, Std.LawfulEqCmp.compare_eq_iff_eq, not_or,
        List.mem_map, not_exists, not_and]
      grind

theorem foldlM_addNamed_perm {ts ts' : List Token} (h : (fieldsOf ts).Perm (fieldsOf ts'))
    {named : Dict String} (hts : ts.foldlM addNamed ∅ = .ok named) :
    ts'.foldlM addNamed ∅ = .ok named := by
  obtain ⟨hfields, hkeys⟩ := exists_foldlM_addNamed_iff.mp ⟨named, hts⟩
  obtain ⟨named', hts'⟩ := exists_foldlM_addNamed_iff.mpr
    ⟨fun p hp => hfields p (h.mem_iff.mpr hp), (h.map Prod.fst).nodup_iff.mp hkeys⟩
  have heq : named' = named := by
    refine Std.ExtTreeMap.ext_getElem? fun key => Option.ext fun value => ?_
    rw [getElem?_foldlM_addNamed hts, getElem?_foldlM_addNamed hts', ← mem_fieldsOf_iff,
      ← mem_fieldsOf_iff, h.mem_iff]
  rw [hts', heq]

/-- **Each named field comes from one token**, and each such token makes one. -/
theorem toList_perm_fieldsOf {ts : List Token} {named : Dict String}
    (h : ts.foldlM addNamed ∅ = .ok named) : named.toList.Perm (fieldsOf ts) := by
  have hkeys := (exists_foldlM_addNamed_iff.mp ⟨named, h⟩).2
  rw [List.perm_ext_iff_of_nodup (Dict.nodup_keys_toList named).of_map hkeys.of_map]
  rintro ⟨key, value⟩
  rw [Std.ExtTreeMap.mem_toList_iff_getElem?_eq_some, getElem?_foldlM_addNamed h,
    ← mem_fieldsOf_iff]
  simp

theorem length_eq_add (ts : List Token) :
    ts.length = (ts.filterMap positionalText).length + (fieldsOf ts).length := by
  induction ts with
  | nil => rfl
  | cons t ts ih =>
    unfold fieldsOf at ih ⊢
    cases hfield : t.field? with
    | none =>
      rw [List.filterMap_cons_some (positionalText_of_field?_eq_none hfield),
        List.filterMap_cons_none hfield, List.length_cons, List.length_cons, ih]
      omega
    | some p =>
      have hnone : positionalText t = none := by rw [positionalText, hfield]
      rw [List.filterMap_cons_none hnone, List.filterMap_cons_some hfield, List.length_cons,
        List.length_cons, ih]
      omega

theorem exists_only_token {ts : List Token} (hkeys : ((fieldsOf ts).map Prod.fst).Nodup)
    {key value : String} (h : (key, value) ∈ fieldsOf ts) :
    ∃ before t after, ts = before ++ t :: after ∧ t.field? = some (key, value) ∧
      ∀ u ∈ before ++ after, ∀ other, u.field? ≠ some (key, other) := by
  obtain ⟨t, ht, hfield⟩ := mem_fieldsOf_iff.mp h
  obtain ⟨before, after, rfl⟩ := List.append_of_mem ht
  refine ⟨before, t, after, rfl, hfield, fun u hu other hother => ?_⟩
  have hmove : (fieldsOf (before ++ t :: after)).Perm ((key, value) :: fieldsOf (before ++ after)) :=
    (List.perm_middle.filterMap Token.field?).trans (.of_eq (List.filterMap_cons_some hfield))
  have hdistinct := (hmove.map Prod.fst).nodup_iff.mp hkeys
  rw [List.map_cons, List.nodup_cons] at hdistinct
  have hmem : (key, other) ∈ fieldsOf (before ++ after) := mem_fieldsOf_iff.mpr ⟨u, hu, hother⟩
  exact hdistinct.1 (List.mem_map.mpr ⟨_, hmem, rfl⟩)

/-! ## Instructions -/

/-- The text is read as an instruction of this kind with these fields. -/
def Reads (id : QualifiedName) (text kind : String) (positional : List String)
    (named : Dict String) : Prop :=
  ∃ i, parse id text = .ok i ∧ i.kind = kind ∧ i.positional = positional ∧ i.named = named

theorem reads_iff_of_spells {id : QualifiedName} {text : String} {first : List Char}
    {words : List (List Char)} (h : Token.Spells text.toList (first :: words)) {kind : String}
    {positional : List String} {named : Dict String} :
    Reads id text kind positional named ↔
      (Token.ofPiece first).openedAt = none ∧
        String.ofList (Token.ofPiece first).text = kind ∧
        (words.map Token.ofPiece).filterMap positionalText = positional ∧
        (words.map Token.ofPiece).foldlM addNamed ∅ = .ok named := by
  have hscan := Token.scan_of_spells h
  constructor
  · rintro ⟨i, hparse, rfl, rfl, rfl⟩
    obtain ⟨token, tokens, named, hscan', hopen, hnamed, rfl⟩ := parse_eq_ok_iff.mp hparse
    obtain ⟨rfl, rfl⟩ := List.cons.inj (Except.ok.inj (hscan.symm.trans hscan'))
    exact ⟨hopen, rfl, rfl, hnamed⟩
  · rintro ⟨hopen, rfl, rfl, hnamed⟩
    exact ⟨_, parse_eq_ok_iff.mpr ⟨_, _, _, hscan, hopen, hnamed, rfl⟩, rfl, rfl, rfl⟩

theorem filterMap_positionalText_ofPiece (words : List (List Char)) :
    (words.map Token.ofPiece).filterMap positionalText =
      (words.filter Token.isPositional).map fun w => String.ofList (Token.ofPiece w).text := by
  induction words with
  | nil => rfl
  | cons w words ih =>
    rw [List.map_cons]
    cases hfield : (Token.ofPiece w).field? with
    | none =>
      rw [List.filterMap_cons_some (positionalText_of_field?_eq_none hfield), ih,
        List.filter_cons_of_pos (by rw [Token.isPositional, hfield]; rfl), List.map_cons]
    | some p =>
      have hnone : positionalText (Token.ofPiece w) = none := by rw [positionalText, hfield]
      rw [List.filterMap_cons_none hnone, ih,
        List.filter_cons_of_neg (by rw [Token.isPositional, hfield]; exact Bool.false_ne_true)]

theorem reads_of_reordered {id : QualifiedName} {text text' : String} {first : List Char}
    {words words' : List (List Char)} (h : Token.Spells text.toList (first :: words))
    (h' : Token.Spells text'.toList (first :: words')) (hwords : Token.Reordered words words')
    {kind : String} {positional : List String} {named : Dict String}
    (hreads : Reads id text kind positional named) : Reads id text' kind positional named := by
  obtain ⟨hopen, hkind, hpositional, hnamed⟩ := (reads_iff_of_spells h).mp hreads
  refine (reads_iff_of_spells h').mpr ⟨hopen, hkind, ?_, ?_⟩
  · rw [← hpositional, filterMap_positionalText_ofPiece, filterMap_positionalText_ofPiece,
      hwords.2]
  · exact foldlM_addNamed_perm ((hwords.1.map Token.ofPiece).filterMap Token.field?) hnamed

theorem spells_written {kind : String} {named : Dict String} (h : Writable kind named)
    (positional : List String) :
    Token.Spells (written kind positional named).toList
      (kind.toList :: fieldTexts positional named) := by
  have hplain : ∀ word : List Char, word ≠ [] →
      (∀ c ∈ word, Text.isBlank c = false ∧ c ≠ '"') → Token.Whole word := by
    intro word hne hword
    exact Token.whole_of_no_blank hne
      (Token.placeAfter_of_no_quote fun hmem => (hword _ hmem).2 rfl) fun c hc => (hword c hc).1
  have hfields : ∀ word ∈ fieldTexts positional named, Token.Whole word := by
    intro word hword
    rcases List.mem_append.mp hword with hword | hword
    · obtain ⟨text, -, rfl⟩ := List.mem_map.mp hword
      exact Token.whole_quote text.toList
    · obtain ⟨p, hp, rfl⟩ := List.mem_map.mp hword
      have hkey : Token.Whole (p.1.toList ++ [':']) := by
        have hcolon : ∀ c ∈ [':'], Text.isBlank c = false ∧ c ≠ '"' :=
          List.forall_mem_singleton.mpr (by decide)
        refine hplain _ (by simp) (List.forall_mem_append.mpr ⟨fun c hc => ?_, hcolon⟩)
        have hc := Text.isNameChar_plain (Text.isNameChar_of_mem_key (h.key p hp) hc)
        exact ⟨hc.1, hc.2.1⟩
      exact hkey.append (Token.whole_quote p.2.toList)
  rw [written, String.toList_ofList]
  exact .word (hplain _ h.kind_ne h.kind_plain) Token.isBlank_of_head?_spaced
    (Token.spells_spaced hfields)

/-- **An instruction can be written with its fields in any order** that keeps the positional ones in
theirs. -/
theorem reads_of_reordered_fieldTexts {kind : String} {named : Dict String}
    (h : Writable kind named) {positional : List String} {text : String} {words : List (List Char)}
    (htext : Token.Spells text.toList (kind.toList :: words))
    (hwords : Token.Reordered (fieldTexts positional named) words) (id : QualifiedName) :
    Reads id text kind positional named :=
  reads_of_reordered (spells_written h positional) htext hwords
    ⟨_, parse_written h positional id, rfl, rfl, rfl⟩

/-- **The order of tokens counts among positional ones only, and each token counts once**: in any
order that keeps the positional ones in theirs the same is read, and each named field comes from
exactly one token. -/
theorem order_among_positional :
    (∀ (id : QualifiedName) (text text' : String) (first : List Char)
        (words words' : List (List Char)),
      Token.Spells text.toList (first :: words) → Token.Spells text'.toList (first :: words') →
      Token.Reordered words words' → ∀ kind positional named,
        Reads id text kind positional named ↔ Reads id text' kind positional named) ∧
      (∀ words : List (List Char), (∀ w ∈ words, Token.Whole w) →
        ∃ text : String, Token.Spells text.toList words) ∧
      ∀ (id : QualifiedName) (text : String) (i : Instruction), parse id text = .ok i →
        ∃ kind tokens, Token.scan text.toList = .ok (kind :: tokens) ∧
          String.ofList kind.text = i.kind ∧
          (kind :: tokens).length = 1 + i.positional.length + i.named.size ∧
          i.positional = tokens.filterMap positionalText ∧
          (∀ key value, i.named[key]? = some value ↔
            ∃ t ∈ tokens, t.field? = some (key, value)) ∧
          ∀ key value, i.named[key]? = some value → value ≠ "" ∧
            ∃ before t after, tokens = before ++ t :: after ∧ t.field? = some (key, value) ∧
              ∀ u ∈ before ++ after, ∀ other, u.field? ≠ some (key, other) := by
  refine ⟨?_, ?_, ?_⟩
  · intro id text text' first words words' h h' hwords kind positional named
    have hback : Token.Reordered words' words := ⟨hwords.1.symm, hwords.2.symm⟩
    exact ⟨reads_of_reordered h h' hwords, reads_of_reordered h' h hback⟩
  · intro words hwords
    refine ⟨String.ofList (words.flatMap (' ' :: ·)), ?_⟩
    rw [String.toList_ofList]
    exact Token.spells_spaced hwords
  · intro id text i hparse
    obtain ⟨kind, tokens, named, hscan, -, hnamed, rfl⟩ := parse_eq_ok_iff.mp hparse
    obtain ⟨hfields, hkeys⟩ := exists_foldlM_addNamed_iff.mp ⟨named, hnamed⟩
    have hmem : ∀ key value, named[key]? = some value ↔ (key, value) ∈ fieldsOf tokens := by
      intro key value
      rw [getElem?_foldlM_addNamed hnamed, ← mem_fieldsOf_iff]
      simp
    have hsize : named.size = (fieldsOf tokens).length := by
      rw [← Std.ExtTreeMap.length_toList, (toList_perm_fieldsOf hnamed).length_eq]
    refine ⟨kind, tokens, hscan, rfl, ?_, rfl, ?_, ?_⟩
    · rw [List.length_cons, length_eq_add tokens, hsize, Nat.add_comm, Nat.add_assoc]
    · intro key value
      rw [hmem, mem_fieldsOf_iff]
    · intro key value hvalue
      rw [hmem] at hvalue
      exact ⟨(hfields _ hvalue).1, exists_only_token hkeys hvalue⟩

/-- A named field in front of the positional ones instead of between them. -/
theorem order_among_positional_moved :
    Reads ⟨none, "t1"⟩ "test c a:\"x y\" d" "test" ["c", "d"] (Dict.ofPairs [("a", "x y")]) ∧
      Reads ⟨none, "t1"⟩ " test  a:\"x y\" c d" "test" ["c", "d"] (Dict.ofPairs [("a", "x y")]) := by
  have hreads : Reads ⟨none, "t1"⟩ "test c a:\"x y\" d" "test" ["c", "d"]
      (Dict.ofPairs [("a", "x y")]) := ⟨_, rfl, rfl, rfl, rfl⟩
  have hmoved := order_among_positional.1 ⟨none, "t1"⟩ "test c a:\"x y\" d"
    " test  a:\"x y\" c d" "test".toList ["c".toList, "a:\"x y\"".toList, "d".toList]
    ["a:\"x y\"".toList, "c".toList, "d".toList] (by decide) (by decide) (by decide)
  exact ⟨hreads, (hmoved _ _ _).mp hreads⟩

end Instruction

end QuestCheck
