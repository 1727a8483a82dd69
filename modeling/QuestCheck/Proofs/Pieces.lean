import Mathlib.Tactic.SplitIfs
import QuestCheck.Token

/-!
# Tokens in two passes

The tokens of a text are found in one pass from right to left. They are the same if the text is
first cut at the blanks outside quotes, where only the place counts, and each piece is then read by
itself.

* `Place.after`, `placeAfter`: the place behind a text;
* `cut`, `pieces`: the pieces of a text;
* `decode`, `opened`, `ofPiece`: the characters of a piece, where it opens its first quote, and the
  token that it is;
* `decode_of_no_quote`, `opened_of_no_quote`: a piece without quotes stands for itself;
* **`find_eq`**, `scan_eq`: one pass finds what two passes find;
* `cut_append`, `scan_append_blank`: the pieces and the tokens of texts behind one another;
* `scan_cons_of_blank`, `scan_blanks_append`: blanks in front say nothing;
* **`scan_across_blanks`**: texts with blanks between them are scanned apart.
-/

namespace QuestCheck.Token

/-! ## Places -/

/-- The place behind one more character. -/
def Place.after : Place → Char → Place
  | plain, c => if c = '"' then quoted else plain
  | quoted, c => if c = '"' then plain else if c = '\\' then escaping else quoted
  | escaping, _ => quoted

/-- The place behind a text that starts at a place. -/
def placeAfter (place : Place) (text : List Char) : Place := text.foldl Place.after place

theorem placeAfter_cons (place : Place) (c : Char) (text : List Char) :
    placeAfter place (c :: text) = placeAfter (place.after c) text := rfl

theorem ne_quote_of_isBlank {c : Char} (h : Text.isBlank c = true) : c ≠ '"' := by
  rintro rfl
  exact absurd h (by decide)

theorem after_plain_of_isBlank {c : Char} (h : Text.isBlank c = true) :
    Place.plain.after c = .plain := if_neg (ne_quote_of_isBlank h)

/-! ## Pieces -/

/-- The pieces between the blanks outside quotes, empty ones among them. -/
def cut : Place → List Char → List (List Char)
  | _, [] => [[]]
  | place, c :: rest =>
    if place = .plain ∧ Text.isBlank c = true then [] :: cut .plain rest
    else Text.extendLine c (cut (place.after c) rest)

/-- The pieces of a text. -/
def pieces (text : List Char) : List (List Char) := (cut .plain text).filter (· ≠ [])

theorem exists_cut_eq_cons (place : Place) (text : List Char) :
    ∃ piece later, cut place text = piece :: later := by
  induction text generalizing place with
  | nil => exact ⟨[], [], rfl⟩
  | cons c rest ih =>
    unfold cut
    split
    · exact ⟨[], _, rfl⟩
    · obtain ⟨piece, later, hcut⟩ := ih (place.after c)
      exact ⟨c :: piece, later, by rw [hcut]; rfl⟩

theorem cut_blank {c : Char} (h : Text.isBlank c = true) (rest : List Char) :
    cut .plain (c :: rest) = [] :: cut .plain rest := by
  rw [cut, if_pos ⟨rfl, h⟩]

theorem cut_cons {place : Place} {c : Char} (h : ¬ (place = .plain ∧ Text.isBlank c = true))
    (rest : List Char) :
    cut place (c :: rest) = Text.extendLine c (cut (place.after c) rest) := by
  rw [cut, if_neg h]

/-! ## One piece -/

/-- The characters that a piece stands for, from a place on, and whether each stands in quotes. -/
def decode : Place → List Char → List (Char × Bool)
  | _, [] => []
  | .plain, c :: rest => if c = '"' then decode .quoted rest else (c, false) :: decode .plain rest
  | .quoted, c :: rest =>
    if c = '"' then decode .plain rest
    else if c = '\\' then decode .escaping rest
    else (c, true) :: decode .quoted rest
  | .escaping, c :: rest => (escaped c).map (·, true) ++ decode .quoted rest

/-- How many of these characters stand before the first quote that is opened. -/
def opened : Place → List Char → Option Nat
  | _, [] => none
  | .plain, c :: rest => if c = '"' then some 0 else (opened .plain rest).map (· + 1)
  | .quoted, c :: rest =>
    if c = '"' then opened .plain rest
    else if c = '\\' then opened .escaping rest
    else (opened .quoted rest).map (· + 1)
  | .escaping, c :: rest => (opened .quoted rest).map (· + (escaped c).length)

/-- The part of a token that a piece says from a place on. -/
def part (place : Place) (piece : List Char) : Token :=
  ⟨(decode place piece).map Prod.fst, opened place piece⟩

/-- The token of a piece. -/
def ofPiece (piece : List Char) : Token := part .plain piece

section Part

variable (rest : List Char)

theorem part_nil (place : Place) : part place [] = empty := by
  cases place <;> rfl

theorem part_openQuote : part .plain ('"' :: rest) = openQuote (part .quoted rest) := rfl

theorem part_plain {c : Char} (h : c ≠ '"') :
    part .plain (c :: rest) = push c (part .plain rest) := by
  simp [part, decode, opened, push, h]

theorem part_closeQuote : part .quoted ('"' :: rest) = part .plain rest := rfl

theorem part_quoted {c : Char} (hq : c ≠ '"') (hb : c ≠ '\\') :
    part .quoted (c :: rest) = push c (part .quoted rest) := by
  simp [part, decode, opened, push, hq, hb]

theorem part_escaping (c : Char) :
    part .escaping (c :: rest) = (escaped c).foldr push (part .quoted rest) := by
  unfold escaped
  split_ifs with h
  · simp [part, decode, opened, push, escaped, h]
  · simp only [part, decode, opened, push, escaped, h, if_false, List.foldr_cons, List.foldr_nil,
      Option.map_map]
    rfl

end Part

/-! ## Pieces without quotes -/

theorem decode_append_of_no_quote {word : List Char} (h : '"' ∉ word) (rest : List Char) :
    decode .plain (word ++ rest) = word.map (·, false) ++ decode .plain rest := by
  induction word with
  | nil => rfl
  | cons c word ih =>
    rw [List.mem_cons, not_or] at h
    rw [List.cons_append, decode, if_neg (Ne.symm h.1), ih h.2]
    rfl

theorem decode_of_no_quote {word : List Char} (h : '"' ∉ word) :
    decode .plain word = word.map (·, false) := by
  have hword := decode_append_of_no_quote h []
  rwa [List.append_nil, decode, List.append_nil] at hword

theorem opened_of_no_quote {word : List Char} (h : '"' ∉ word) : opened .plain word = none := by
  induction word with
  | nil => rfl
  | cons c word ih =>
    rw [List.mem_cons, not_or] at h
    rw [opened, if_neg (Ne.symm h.1), ih h.2]
    rfl

theorem map_fst_unquoted (word : List Char) : (word.map (·, false)).map Prod.fst = word := by
  rw [List.map_map]
  exact List.map_id word

/-! ## Both passes -/

/-- What is found from a place on in pieces: the first goes on with what stands before the place. -/
def foundIn : Place → List (List Char) → Found
  | _, [] => .nothing
  | place, piece :: later =>
    ⟨if place = .plain ∧ piece = [] then none else some (part place piece),
      (later.filter (· ≠ [])).map ofPiece⟩

/-- What is found in a text that ends at a place: an open quote is a defect. -/
def Place.close (f : Found) : Place → Except Defect Found
  | plain => .ok f
  | quoted => .error .unterminatedQuote
  | escaping => .error .danglingEscape

theorem Place.map_close (f : Found) (g : Found → Found) (place : Place) :
    (place.close f).map g = place.close (g f) := by
  cases place <;> rfl

theorem current_foundIn (place : Place) (piece : List Char) (later : List (List Char)) :
    (foundIn place (piece :: later)).current = part place piece := by
  show (if place = .plain ∧ piece = [] then none else some (part place piece)).getD empty = _
  split_ifs with h
  · rw [h.2, part_nil]
    rfl
  · rfl

theorem modify_foundIn {place place' : Place} {c : Char} {g : Token → Token}
    (hg : ∀ piece, part place (c :: piece) = g (part place' piece)) (piece : List Char)
    (later : List (List Char)) :
    (foundIn place' (piece :: later)).modify g = foundIn place ((c :: piece) :: later) := by
  unfold Found.modify
  rw [current_foundIn, ← hg]
  simp [foundIn]

theorem separate_foundIn (piece : List Char) (later : List (List Char)) :
    (foundIn .plain (piece :: later)).separate = foundIn .plain ([] :: piece :: later) := by
  unfold Found.separate Found.tokens
  by_cases h : piece = []
  · simp [foundIn, h]
  · simp [foundIn, h, ofPiece]

/-- **One pass finds what two passes find**, from any place on. -/
theorem find_eq (place : Place) (text : List Char) :
    find place text = (placeAfter place text).close (foundIn place (cut place text)) := by
  induction text generalizing place with
  | nil => cases place <;> rfl
  | cons c rest ih =>
    rw [placeAfter_cons]
    -- a character that does not separate is the first of the first piece
    have hstep : ∀ {place' : Place} {g : Token → Token}, place.after c = place' →
        ¬ (place = .plain ∧ Text.isBlank c = true) →
        (∀ piece, part place (c :: piece) = g (part place' piece)) →
        (find place' rest).map (.modify g) =
          (placeAfter (place.after c) rest).close (foundIn place (cut place (c :: rest))) := by
      rintro place' g rfl hcut hg
      obtain ⟨piece, later, hpieces⟩ := exists_cut_eq_cons (place.after c) rest
      rw [ih, Place.map_close, cut_cons hcut, hpieces, modify_foundIn hg]
      rfl
    cases place with
    | plain =>
      by_cases hb : Text.isBlank c = true
      · obtain ⟨piece, later, hpieces⟩ := exists_cut_eq_cons .plain rest
        rw [find_blank rest hb, ih, Place.map_close, after_plain_of_isBlank hb, cut_blank hb,
          hpieces, separate_foundIn]
      have hcut : ¬ (Place.plain = .plain ∧ Text.isBlank c = true) := fun h => hb h.2
      by_cases hq : c = '"'
      · subst hq
        rw [find_openQuote]
        exact hstep rfl hcut part_openQuote
      · rw [find_plain rest (Bool.not_eq_true _ ▸ hb) hq]
        exact hstep (if_neg hq) hcut fun piece => part_plain piece hq
    | quoted =>
      have hcut : ¬ (Place.quoted = .plain ∧ Text.isBlank c = true) := fun h => nomatch h.1
      by_cases hq : c = '"'
      · subst hq
        rw [find_closeQuote]
        exact hstep rfl hcut part_closeQuote
      by_cases hb : c = '\\'
      · subst hb
        obtain ⟨piece, later, hpieces⟩ := exists_cut_eq_cons .escaping rest
        have hafter : Place.quoted.after '\\' = .escaping := rfl
        rw [find_backslash, ih, cut_cons hcut, hafter, hpieces]
        rfl
      · rw [find_quoted rest hq hb]
        have hafter : Place.quoted.after c = .quoted := (if_neg hq).trans (if_neg hb)
        exact hstep hafter hcut fun piece => part_quoted piece hq hb
    | escaping =>
      have hcut : ¬ (Place.escaping = .plain ∧ Text.isBlank c = true) := fun h => nomatch h.1
      exact hstep rfl hcut fun piece => part_escaping piece c

theorem tokens_foundIn (pieces : List (List Char)) :
    (foundIn .plain pieces).tokens = (pieces.filter (· ≠ [])).map ofPiece := by
  cases pieces with
  | nil => rfl
  | cons piece later =>
    unfold Found.tokens
    by_cases h : piece = []
    · simp [foundIn, h]
    · simp [foundIn, h, ofPiece]

/-- **What is scanned are the pieces of the text**, unless it ends inside quotes. -/
theorem scan_eq (text : List Char) :
    scan text =
      match placeAfter .plain text with
      | .plain => .ok ((pieces text).map ofPiece)
      | .quoted => .error .unterminatedQuote
      | .escaping => .error .danglingEscape := by
  unfold scan pieces
  rw [find_eq, ← tokens_foundIn]
  cases placeAfter .plain text <;> rfl

theorem scan_eq_ok_iff {text : List Char} {tokens : List Token} :
    scan text = .ok tokens ↔
      placeAfter .plain text = .plain ∧ tokens = (pieces text).map ofPiece := by
  rw [scan_eq]
  cases placeAfter .plain text <;> simp [eq_comm]

/-! ## Texts behind one another -/

theorem placeAfter_append (place : Place) (xs ys : List Char) :
    placeAfter place (xs ++ ys) = placeAfter (placeAfter place xs) ys := by
  unfold placeAfter
  rw [List.foldl_append]

theorem cut_append {place : Place} {xs ys last first : List Char} {before later : List (List Char)}
    (hxs : cut place xs = before ++ [last])
    (hys : cut (placeAfter place xs) ys = first :: later) :
    cut place (xs ++ ys) = before ++ (last ++ first) :: later := by
  induction xs generalizing place before last with
  | nil =>
    obtain ⟨rfl, rfl⟩ : before = [] ∧ last = [] := by
      cases before with
      | nil => exact ⟨rfl, (List.cons.inj hxs).1.symm⟩
      | cons b bs => simp [cut] at hxs
    exact hys
  | cons c rest ih =>
    rw [placeAfter_cons] at hys
    rw [List.cons_append]
    by_cases hblank : place = .plain ∧ Text.isBlank c = true
    · obtain ⟨rfl, hc⟩ := hblank
      rw [after_plain_of_isBlank hc] at hys
      rw [cut_blank hc] at hxs ⊢
      cases before with
      | nil =>
        obtain ⟨piece, others, hcut⟩ := exists_cut_eq_cons .plain rest
        rw [hcut] at hxs
        cases hxs
      | cons b bs =>
        obtain ⟨rfl, hrest⟩ := List.cons.inj hxs
        rw [ih hrest hys]
        rfl
    · obtain ⟨piece, others, hcut⟩ := exists_cut_eq_cons (place.after c) rest
      rw [cut_cons hblank] at hxs ⊢
      rw [hcut] at hxs
      cases before with
      | nil =>
        obtain ⟨rfl, rfl⟩ := List.cons.inj hxs
        rw [@ih _ _ [] hcut hys]
        rfl
      | cons b bs =>
        obtain ⟨rfl, rfl⟩ := List.cons.inj hxs
        rw [@ih _ _ (piece :: bs) hcut hys]
        rfl

/-- **A blank behind a text that ends outside quotes** separates its pieces from what follows. -/
theorem cut_append_blank {xs : List Char} (h : placeAfter .plain xs = .plain) {c : Char}
    (hc : Text.isBlank c = true) (ys : List Char) :
    cut .plain (xs ++ c :: ys) = cut .plain xs ++ cut .plain ys := by
  have hne : cut .plain xs ≠ [] := by
    obtain ⟨piece, later, hcut⟩ := exists_cut_eq_cons .plain xs
    rw [hcut]
    exact List.cons_ne_nil _ _
  obtain ⟨before, last, hxs⟩ : ∃ before last, cut .plain xs = before ++ [last] :=
    ⟨_, _, (List.dropLast_concat_getLast hne).symm⟩
  have hys : cut (placeAfter .plain xs) (c :: ys) = [] :: cut .plain ys := by
    rw [h, cut_blank hc]
  rw [cut_append hxs hys, hxs, List.append_nil, List.append_assoc, List.singleton_append]

/-- **What is scanned behind a blank** comes behind the tokens in front of it. -/
theorem scan_append_blank {xs : List Char} {tokens : List Token} (h : scan xs = .ok tokens)
    {c : Char} (hc : Text.isBlank c = true) (ys : List Char) :
    scan (xs ++ c :: ys) = (scan ys).map (tokens ++ ·) := by
  obtain ⟨hxs, rfl⟩ := scan_eq_ok_iff.mp h
  have hplace : placeAfter .plain (xs ++ c :: ys) = placeAfter .plain ys := by
    rw [placeAfter_append, hxs, placeAfter_cons, after_plain_of_isBlank hc]
  rw [scan_eq, scan_eq, hplace, pieces, cut_append_blank hxs hc]
  cases placeAfter .plain ys with
  | plain =>
    rw [List.filter_append, List.map_append]
    rfl
  | quoted => rfl
  | escaping => rfl

/-! ## Blanks around a text -/

theorem scan_cons_of_blank {c : Char} (h : Text.isBlank c = true) (rest : List Char) :
    scan (c :: rest) = scan rest := by
  unfold scan
  rw [find_blank rest h]
  cases find .plain rest <;> rfl

theorem scan_blanks_append {blanks : List Char} (h : ∀ c ∈ blanks, Text.isBlank c = true)
    (rest : List Char) : scan (blanks ++ rest) = scan rest := by
  induction blanks with
  | nil => rfl
  | cons c blanks ih =>
    obtain ⟨hc, hblanks⟩ := List.forall_mem_cons.mp h
    rw [List.cons_append, scan_cons_of_blank hc, ih hblanks]

theorem scan_append_blanks {text : List Char} {tokens : List Token} (h : scan text = .ok tokens)
    {blanks : List Char} (hne : blanks ≠ []) (hblanks : ∀ c ∈ blanks, Text.isBlank c = true)
    (rest : List Char) : scan (text ++ blanks ++ rest) = (scan rest).map (tokens ++ ·) := by
  obtain ⟨c, others, rfl⟩ := List.exists_cons_of_ne_nil hne
  obtain ⟨hc, hothers⟩ := List.forall_mem_cons.mp hblanks
  rw [List.append_assoc, List.cons_append, scan_append_blank h hc, scan_blanks_append hothers]

/-- **Texts with blanks between them are scanned apart**: the tokens of both, one after another, or
the error of the second. Blanks around a text change nothing. -/
theorem scan_across_blanks {text : List Char} {tokens : List Token} (h : scan text = .ok tokens) :
    (∀ blanks rest : List Char, blanks ≠ [] → (∀ c ∈ blanks, Text.isBlank c = true) →
      (∀ later, scan rest = .ok later → scan (text ++ blanks ++ rest) = .ok (tokens ++ later)) ∧
      ∀ defect, scan rest = .error defect → scan (text ++ blanks ++ rest) = .error defect) ∧
    ∀ front back : List Char, (∀ c ∈ front, Text.isBlank c = true) →
      (∀ c ∈ back, Text.isBlank c = true) → scan (front ++ text ++ back) = .ok tokens := by
  constructor
  · intro blanks rest hne hblanks
    have hscan := scan_append_blanks h hne hblanks rest
    constructor
    · intro later hlater
      rw [hscan, hlater]
      rfl
    · intro defect hdefect
      rw [hscan, hdefect]
      rfl
  · intro front back hfront hback
    rw [List.append_assoc, scan_blanks_append hfront]
    by_cases hnil : back = []
    · rw [hnil, List.append_nil, h]
    · have hscan := scan_append_blanks h hnil hback []
      rw [List.append_nil] at hscan
      rw [hscan]
      show Except.ok (tokens ++ []) = _
      rw [List.append_nil]

/-- Quotes and a wide blank between the texts, and a text that does not end outside quotes. -/
theorem scan_across_blanks_quoted :
    scan "fail:\"a \\\" b\"".toList = .ok [⟨"fail:a \" b".toList, some 5⟩] ∧
      scan ("fail:\"a \\\" b\"".toList ++ ['\u3000', ' '] ++ "c\"d".toList) =
        .error .unterminatedQuote ∧
      scan ("fail:\"a \\\" b\"".toList ++ ['\u3000', ' '] ++ "c\"d\"".toList) =
        .ok [⟨"fail:a \" b".toList, some 5⟩, ⟨['c', 'd'], some 1⟩] ∧
      scan (['\t'] ++ "fail:\"a \\\" b\"".toList ++ ['\u2028']) =
        .ok [⟨"fail:a \" b".toList, some 5⟩] := by
  have htext : scan "fail:\"a \\\" b\"".toList = .ok [⟨"fail:a \" b".toList, some 5⟩] := rfl
  have hblanks : ∀ c ∈ ['\u3000', ' '], Text.isBlank c = true :=
    List.forall_mem_cons.mpr ⟨rfl, List.forall_mem_singleton.mpr rfl⟩
  obtain ⟨hbetween, haround⟩ := scan_across_blanks htext
  refine ⟨htext, ?_, ?_, ?_⟩
  · exact (hbetween _ _ (List.cons_ne_nil _ _) hblanks).2 _ rfl
  · exact (hbetween _ _ (List.cons_ne_nil _ _) hblanks).1 [⟨['c', 'd'], some 1⟩] rfl
  · exact haround _ _ (List.forall_mem_singleton.mpr rfl) (List.forall_mem_singleton.mpr rfl)

end QuestCheck.Token
