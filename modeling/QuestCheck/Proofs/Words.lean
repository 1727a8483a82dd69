import Mathlib.Data.List.Basic
import QuestCheck.Proofs.Pieces

/-!
# Words and quotes

What the two passes over a text say about its tokens. The first pass alone decides whether the text
is rejected, and for which defect. A text without quotes has its words as tokens, and a token
without text has been written with nothing but quotes.

* `placeAfter_eq_escaping_iff`: where a text ends behind a backslash that waits for its character;
* `placeAfter_of_mem_pieces`: if a text ends outside quotes, so does each of its pieces;
* `eq_quote_of_decode_eq_nil`: pieces that stand for nothing;
* `cut_of_no_quote`, `scan_of_no_quote`: without quotes all blanks separate;
* `textsInTwoPasses`, and **`scan_in_two_passes`**: the texts of the tokens.
-/

namespace QuestCheck.Token

/-! ## Places in a text -/

theorem placeAfter_concat (place : Place) (text : List Char) (c : Char) :
    placeAfter place (text ++ [c]) = (placeAfter place text).after c := by
  unfold placeAfter
  rw [List.foldl_append]
  rfl

theorem after_eq_escaping_iff {place : Place} {c : Char} :
    place.after c = .escaping ↔ place = .quoted ∧ c = '\\' := by
  cases place with
  | plain =>
    show (if c = '"' then Place.quoted else .plain) = .escaping ↔ _
    split_ifs <;> simp
  | quoted =>
    show (if c = '"' then Place.plain else if c = '\\' then .escaping else .quoted) = .escaping ↔ _
    split_ifs with hq hb
    · simp [hq]
    · simp [hb]
    · simp [hb]
  | escaping => simp [Place.after]

theorem placeAfter_eq_escaping_iff {text : List Char} :
    placeAfter .plain text = .escaping ↔
      ∃ before, text = before ++ ['\\'] ∧ placeAfter .plain before = .quoted := by
  constructor
  · intro h
    rcases text.eq_nil_or_concat' with rfl | ⟨before, c, rfl⟩
    · cases h
    · rw [placeAfter_concat, after_eq_escaping_iff] at h
      obtain ⟨hbefore, rfl⟩ := h
      exact ⟨before, rfl, hbefore⟩
  · rintro ⟨before, rfl, hbefore⟩
    rw [placeAfter_concat, hbefore]
    rfl

theorem placeAfter_of_no_quote {text : List Char} (h : '"' ∉ text) :
    placeAfter .plain text = .plain := by
  induction text with
  | nil => rfl
  | cons c rest ih =>
    rw [List.mem_cons, not_or] at h
    rw [placeAfter_cons, Place.after, if_neg (Ne.symm h.1), ih h.2]

/-- If a text ends outside quotes, so does each piece, the first from the place of the text. -/
theorem placeAfter_of_mem_cut {place : Place} {text piece : List Char} {later : List (List Char)}
    (h : placeAfter place text = .plain) (hcut : cut place text = piece :: later) :
    placeAfter place piece = .plain ∧ ∀ p ∈ later, placeAfter .plain p = .plain := by
  induction text generalizing place piece later with
  | nil =>
    obtain ⟨rfl, rfl⟩ := List.cons.inj hcut
    exact ⟨h, nofun⟩
  | cons c rest ih =>
    rw [placeAfter_cons] at h
    by_cases hblank : place = .plain ∧ Text.isBlank c = true
    · obtain ⟨rfl, hc⟩ := hblank
      rw [after_plain_of_isBlank hc] at h
      rw [cut_blank hc] at hcut
      obtain ⟨rfl, rfl⟩ := List.cons.inj hcut
      obtain ⟨first, others, hrest⟩ := exists_cut_eq_cons .plain rest
      rw [hrest]
      exact ⟨rfl, List.forall_mem_cons.mpr (ih h hrest)⟩
    · obtain ⟨first, others, hrest⟩ := exists_cut_eq_cons (place.after c) rest
      rw [cut_cons hblank, hrest] at hcut
      obtain ⟨rfl, rfl⟩ := List.cons.inj hcut
      obtain ⟨hfirst, hothers⟩ := ih h hrest
      exact ⟨hfirst, hothers⟩

theorem placeAfter_of_mem_pieces {text piece : List Char} (h : placeAfter .plain text = .plain)
    (hpiece : piece ∈ pieces text) : placeAfter .plain piece = .plain := by
  obtain ⟨first, later, hcut⟩ := exists_cut_eq_cons .plain text
  have hmem : piece ∈ cut .plain text := (List.mem_filter.mp hpiece).1
  obtain ⟨hfirst, hlater⟩ := placeAfter_of_mem_cut h hcut
  rw [hcut] at hmem
  rcases List.mem_cons.mp hmem with rfl | hmem
  · exact hfirst
  · exact hlater piece hmem

/-! ## Pieces without text -/

theorem eq_quote_of_decode_eq_nil {place : Place} {piece : List Char} (hplace : place ≠ .escaping)
    (hend : placeAfter place piece = .plain) (hdecode : decode place piece = []) :
    ∀ c ∈ piece, c = '"' := by
  induction piece generalizing place with
  | nil => exact fun c hc => absurd hc List.not_mem_nil
  | cons c rest ih =>
    rw [placeAfter_cons] at hend
    cases place with
    | plain =>
      by_cases hq : c = '"'
      · subst hq
        exact List.forall_mem_cons.mpr ⟨rfl, @ih .quoted (by decide) hend hdecode⟩
      · rw [decode, if_neg hq] at hdecode
        cases hdecode
    | quoted =>
      by_cases hq : c = '"'
      · subst hq
        exact List.forall_mem_cons.mpr ⟨rfl, @ih .plain (by decide) hend hdecode⟩
      by_cases hb : c = '\\'
      · -- behind a backslash there is a character, and it stands for something
        subst hb
        cases rest with
        | nil => cases hend
        | cons d rest =>
          have hescaped : escaped d ≠ [] := by
            unfold escaped
            split_ifs <;> exact List.cons_ne_nil _ _
          exact absurd (List.map_eq_nil_iff.mp (List.append_eq_nil_iff.mp hdecode).1) hescaped
      · rw [decode, if_neg hq, if_neg hb] at hdecode
        cases hdecode
    | escaping => exact absurd rfl hplace

/-! ## Texts without quotes -/

theorem cut_of_no_quote {text : List Char} (h : '"' ∉ text) :
    cut .plain text = text.splitOnP Text.isBlank := by
  induction text with
  | nil => rfl
  | cons c rest ih =>
    rw [List.mem_cons, not_or] at h
    rw [List.splitOnP_cons_eq_if_modifyHead, ← ih h.2]
    split_ifs with hblank
    · exact cut_blank hblank rest
    · have hplain : Place.plain.after c = .plain := if_neg (Ne.symm h.1)
      obtain ⟨piece, later, hcut⟩ := exists_cut_eq_cons .plain rest
      rw [cut_cons (fun hc => hblank hc.2), hplain, hcut]
      rfl

theorem mem_of_mem_cut {place : Place} {text piece : List Char} (hpiece : piece ∈ cut place text)
    {c : Char} (hc : c ∈ piece) : c ∈ text := by
  induction text generalizing place piece with
  | nil =>
    obtain rfl := List.mem_singleton.mp hpiece
    cases hc
  | cons d rest ih =>
    by_cases hblank : place = .plain ∧ Text.isBlank d = true
    · obtain ⟨rfl, hd⟩ := hblank
      rw [cut_blank hd] at hpiece
      rcases List.mem_cons.mp hpiece with rfl | hpiece
      · cases hc
      · exact List.mem_cons_of_mem d (ih hpiece hc)
    · obtain ⟨first, later, hcut⟩ := exists_cut_eq_cons (place.after d) rest
      rw [cut_cons hblank, hcut] at hpiece
      rcases List.mem_cons.mp hpiece with rfl | hlater
      · rcases List.mem_cons.mp hc with rfl | hfirst
        · exact List.mem_cons_self
        · exact List.mem_cons_of_mem d (ih (hcut ▸ List.mem_cons_self) hfirst)
      · exact List.mem_cons_of_mem d (ih (hcut ▸ List.mem_cons_of_mem first hlater) hc)

theorem scan_of_no_quote {text : List Char} (h : '"' ∉ text) :
    scan text = .ok (((text.splitOnP Text.isBlank).filter (· ≠ [])).map (⟨·, none⟩)) := by
  refine scan_eq_ok_iff.mpr ⟨placeAfter_of_no_quote h, ?_⟩
  rw [pieces, cut_of_no_quote h]
  refine List.map_congr_left fun word hword => ?_
  have hquote : '"' ∉ word := by
    intro hmem
    rw [← cut_of_no_quote h] at hword
    exact h (mem_of_mem_cut (List.mem_filter.mp hword).1 hmem)
  rw [ofPiece, part, decode_of_no_quote hquote, opened_of_no_quote hquote, map_fst_unquoted]

/-! ## Two passes -/

/-- The texts of the tokens in two passes: the first cuts the text and rejects it where it ends in
quotes, the second reads each piece by itself. -/
def textsInTwoPasses (text : List Char) : Except Defect (List (List Char)) :=
  match placeAfter .plain text with
  | .plain => .ok ((pieces text).map fun piece => (decode .plain piece).map Prod.fst)
  | .quoted => .error .unterminatedQuote
  | .escaping => .error .danglingEscape

theorem map_text_scan (text : List Char) :
    (scan text).map (·.map Token.text) = textsInTwoPasses text := by
  rw [scan_eq, textsInTwoPasses]
  cases placeAfter .plain text with
  | plain =>
    show Except.ok (((pieces text).map ofPiece).map Token.text) = _
    rw [List.map_map]
    rfl
  | quoted => rfl
  | escaping => rfl

theorem scan_eq_danglingEscape_iff {text : List Char} :
    scan text = .error .danglingEscape ↔ placeAfter .plain text = .escaping := by
  rw [scan_eq]
  cases placeAfter .plain text <;> simp

/-- **One pass over a text does what two passes do**: cutting it into pieces first, and reading each
piece then. -/
theorem scan_in_two_passes (text : List Char) :
    (scan text).map (·.map Token.text) = textsInTwoPasses text ∧
      (scan text = .error .danglingEscape ↔
        ∃ before, text = before ++ ['\\'] ∧ placeAfter .plain before = .quoted) ∧
      ('"' ∉ text →
        scan text = .ok (((text.splitOnP Text.isBlank).filter (· ≠ [])).map (⟨·, none⟩))) ∧
      ((scan text).isOk → ∀ piece ∈ pieces text, (ofPiece piece).text = [] →
        piece ≠ [] ∧ ∀ c ∈ piece, c = '"') := by
  refine ⟨map_text_scan text, ?_, scan_of_no_quote, ?_⟩
  · rw [scan_eq_danglingEscape_iff, placeAfter_eq_escaping_iff]
  · intro hok piece hpiece htext
    obtain ⟨tokens, hscan⟩ := exists_of_isOk hok
    have hend := placeAfter_of_mem_pieces (scan_eq_ok_iff.mp hscan).1 hpiece
    have hne : piece ≠ [] := by simpa using (List.mem_filter.mp hpiece).2
    have hdecode : decode .plain piece = [] := List.map_eq_nil_iff.mp htext
    exact ⟨hne, eq_quote_of_decode_eq_nil Place.noConfusion hend hdecode⟩

end QuestCheck.Token
