import Mathlib.Data.List.Basic
import QuestCheck.Proofs.Codec
import QuestCheck.Proofs.Pieces

/-!
# Colons in quotes

A token is a named field by its first colon, unless its first quote was opened before. The colon may
stand in quotes all the same: a quote that is opened right at the colon is not before it.

* `Instruction.getElem?_foldlM_addNamed`: the named fields are those of the tokens;
* `Token.FirstColon`: the first colon of a piece, which may stand in quotes;
* `not_opened_before_iff`: a quote is not opened before a key exactly if the piece starts with it;
* `field?_ofPiece_eq_some_iff`, `field?_ofPiece_of_quoted`: pieces that are named fields;
* **`Instruction.quoted_colon_separates_iff`**: where a colon in quotes separates.
-/

namespace QuestCheck

/-! ## Named fields -/

namespace Instruction

theorem getElem?_addNamed {named named' : Dict String} {t : Token}
    (h : addNamed named t = .ok named') (key value : String) :
    named'[key]? = some value ↔ named[key]? = some value ∨ t.field? = some (key, value) := by
  unfold addNamed at h
  cases hfield : t.field? with
  | none =>
    rw [hfield] at h
    obtain rfl := Except.ok.inj h
    simp
  | some p =>
    obtain ⟨key', value'⟩ := p
    rw [hfield] at h
    simp only at h
    split_ifs at h with hempty hmem
    obtain rfl := Except.ok.inj h
    by_cases hkey : key' = key
    · subst hkey
      have hnone : named[key']? = none := Std.ExtTreeMap.getElem?_eq_none hmem
      simp [hnone]
    · rw [Dict.getElem?_insert_of_ne _ hkey]
      simp [hkey]

/-- **The named fields are those of the tokens.** -/
theorem getElem?_foldlM_addNamed {ts : List Token} {named named' : Dict String}
    (h : ts.foldlM addNamed named = .ok named') (key value : String) :
    named'[key]? = some value ↔
      named[key]? = some value ∨ ∃ t ∈ ts, t.field? = some (key, value) := by
  induction ts generalizing named with
  | nil =>
    obtain rfl := Except.ok.inj h
    simp
  | cons t ts ih =>
    rw [List.foldlM_cons] at h
    cases ht : addNamed named t with
    | error defect =>
      rw [ht] at h
      cases h
    | ok named₁ =>
      rw [ht] at h
      rw [ih h, getElem?_addNamed ht, or_assoc, List.exists_mem_cons_iff]

theorem positionalText_of_field?_eq_none {t : Token} (h : t.field? = none) :
    positionalText t = some (String.ofList t.text) := by
  rw [positionalText, h]

end Instruction

namespace Token

/-! ## The first colon of a piece -/

variable {piece key value : List Char} {quoted : Bool}

/-- The first colon among the characters of a piece: what stands before it and behind it, and
whether it stands in quotes. -/
def FirstColon (piece key : List Char) (quoted : Bool) (value : List Char) : Prop :=
  ∃ before after, decode .plain piece = before ++ (':', quoted) :: after ∧
    before.map Prod.fst = key ∧ after.map Prod.fst = value ∧ ':' ∉ key

theorem cutAt_ofPiece_iff :
    Text.cutAt ':' (ofPiece piece).text = some (key, value) ↔
      ∃ quoted, FirstColon piece key quoted value := by
  rw [Text.cutAt_eq_some_iff]
  constructor
  · rintro ⟨htext, hkey⟩
    obtain ⟨before, rest, hdecode, hbefore, hrest⟩ := List.map_eq_append_iff.mp htext
    obtain ⟨⟨c, quoted⟩, after, rfl, hc, hafter⟩ := List.map_eq_cons_iff.mp hrest
    obtain rfl : c = ':' := hc
    exact ⟨quoted, before, after, hdecode, hbefore, hafter, hkey⟩
  · rintro ⟨quoted, before, after, hdecode, rfl, rfl, hkey⟩
    refine ⟨?_, hkey⟩
    show (decode .plain piece).map Prod.fst = _
    rw [hdecode, List.map_append, List.map_cons]

/-! ## Quotes before a key -/

theorem opened_append_quote {word : List Char} (h : '"' ∉ word) (rest : List Char) :
    opened .plain (word ++ '"' :: rest) = some word.length := by
  induction word with
  | nil => rfl
  | cons c word ih =>
    rw [List.mem_cons, not_or] at h
    rw [List.cons_append, opened, if_neg (Ne.symm h.1), ih h.2]
    rfl

/-- **A quote is not opened before a key** exactly if the piece starts with the key as it is. -/
theorem not_opened_before_iff {before after : List (Char × Bool)}
    (hdecode : decode .plain piece = before ++ after) (hkey : '"' ∉ before.map Prod.fst) :
    (opened .plain piece).any (· < before.length) = false ↔ before.map Prod.fst <+: piece := by
  by_cases hquote : '"' ∈ piece
  · obtain ⟨word, rest, rfl, hword⟩ := List.eq_append_cons_of_mem hquote
    rw [opened_append_quote hword, Option.any_some, decide_eq_false_iff_not, Nat.not_lt]
    constructor
    · intro hle
      have hfront : before <+: word.map (·, false) := by
        refine List.prefix_of_prefix_length_le (List.prefix_append before after) ?_ (by simpa)
        rw [← hdecode, decode_append_of_no_quote hword]
        exact List.prefix_append _ _
      have hmap := hfront.map Prod.fst
      rw [map_fst_unquoted] at hmap
      exact hmap.trans (List.prefix_append _ _)
    · intro hfront
      refine Nat.le_of_not_lt fun hlt => ?_
      -- the quote behind the word would be a character of the key
      have hlength : (word ++ ['"']).length ≤ (before.map Prod.fst).length := by
        rw [List.length_append, List.length_map, List.length_singleton]
        omega
      have hword' : word ++ ['"'] <+: word ++ '"' :: rest :=
        ⟨rest, by rw [List.append_assoc, List.singleton_append]⟩
      have hinside := List.prefix_of_prefix_length_le hword' hfront hlength
      exact hkey (hinside.subset (List.mem_append_right _ (List.mem_singleton_self _)))
  · rw [opened_of_no_quote hquote]
    rw [decode_of_no_quote hquote] at hdecode
    refine iff_of_true rfl ?_
    have hmap := (List.prefix_append before after).map Prod.fst
    rwa [← hdecode, map_fst_unquoted] at hmap

theorem quote_not_mem_key (h : Text.isKey (String.ofList key) = true) : '"' ∉ key := fun hmem =>
  (Text.isNameChar_plain (Text.isNameChar_of_mem_key h (by simpa using hmem))).2.1 rfl

/-! ## Named pieces -/

/-- **A piece is a named field** exactly if it starts with a key and its first colon, in quotes or
not, is the character behind it. -/
theorem field?_ofPiece_eq_some_iff :
    (ofPiece piece).field? = some (String.ofList key, String.ofList value) ↔
      (∃ quoted, FirstColon piece key quoted value) ∧ Text.isKey (String.ofList key) = true ∧
        key <+: piece := by
  have hopened : ∀ {key value : List Char} {quoted : Bool}, FirstColon piece key quoted value →
      Text.isKey (String.ofList key) = true →
      ((ofPiece piece).openedAt.any (· < key.length) = false ↔ key <+: piece) := by
    rintro key value quoted ⟨before, after, hdecode, rfl, -, -⟩ hkey
    rw [List.length_map]
    exact not_opened_before_iff hdecode (quote_not_mem_key hkey)
  unfold field?
  cases hcut : Text.cutAt ':' (ofPiece piece).text with
  | none =>
    refine iff_of_false nofun ?_
    rintro ⟨hcolon, -⟩
    cases hcut.symm.trans (cutAt_ofPiece_iff.mpr hcolon)
  | some p =>
    obtain ⟨key', value'⟩ := p
    obtain ⟨quoted, hcolon⟩ := cutAt_ofPiece_iff.mp hcut
    constructor
    · intro h
      simp only at h
      split_ifs at h with hbefore hkey
      obtain ⟨hk, hv⟩ := Prod.mk.inj (Option.some.inj h)
      obtain rfl := String.ofList_injective hk
      obtain rfl := String.ofList_injective hv
      exact ⟨⟨quoted, hcolon⟩, hkey, (hopened hcolon hkey).mp (by simpa using hbefore)⟩
    · rintro ⟨hcolon', hkey, hfront⟩
      obtain ⟨rfl, rfl⟩ :=
        Prod.mk.inj (Option.some.inj (hcut.symm.trans (cutAt_ofPiece_iff.mpr hcolon')))
      simp only [(hopened hcolon hkey).mpr hfront, hkey, Bool.false_eq_true, if_false, if_true]

theorem FirstColon.opens_at_colon (h : FirstColon piece key true value) (hkey : '"' ∉ key)
    (hfront : key <+: piece) : key ++ ['"'] <+: piece := by
  obtain ⟨before, after, hdecode, hbefore, -, -⟩ := h
  obtain ⟨rest, rfl⟩ := hfront
  rw [decode_append_of_no_quote hkey] at hdecode
  have hlength : (key.map (·, false)).length = before.length := by
    rw [List.length_map, ← hbefore, List.length_map]
  obtain ⟨-, hrest⟩ := List.append_inj hdecode hlength
  cases rest with
  | nil => cases hrest
  | cons c rest =>
    by_cases hc : c = '"'
    · subst hc
      exact ⟨rest, by rw [List.append_assoc, List.singleton_append]⟩
    · rw [decode, if_neg hc] at hrest
      cases hrest

/-- **A piece whose first colon stands in quotes** is a named field exactly if the quote is opened
right behind a key. -/
theorem field?_ofPiece_of_quoted (h : FirstColon piece key true value) :
    (ofPiece piece).field? =
      if Text.isKey (String.ofList key) = true ∧ key ++ ['"'] <+: piece then
        some (String.ofList key, String.ofList value)
      else none := by
  split_ifs with hopens
  · have hfront : key <+: piece := (List.prefix_append key ['"']).trans hopens.2
    exact field?_ofPiece_eq_some_iff.mpr ⟨⟨true, h⟩, hopens.1, hfront⟩
  · cases hfield : (ofPiece piece).field? with
    | none => rfl
    | some p =>
      obtain ⟨key', value'⟩ := p
      rw [← String.ofList_toList (s := key'), ← String.ofList_toList (s := value')] at hfield
      obtain ⟨hcolon, hkey, hfront⟩ := field?_ofPiece_eq_some_iff.mp hfield
      obtain ⟨hk, -⟩ := Prod.mk.inj (Option.some.inj
        ((cutAt_ofPiece_iff.mpr hcolon).symm.trans (cutAt_ofPiece_iff.mpr ⟨true, h⟩)))
      rw [hk] at hkey hfront
      exact absurd ⟨hkey, h.opens_at_colon (quote_not_mem_key hkey) hfront⟩ hopens

end Token

/-! ## Instructions -/

namespace Instruction

/-- **Where a colon in quotes separates**: a piece whose first colon stands in quotes is a named
field exactly if these are opened right behind a key, and else it is kept whole as a positional
field. -/
theorem quoted_colon_separates_iff {id : QualifiedName} {text : String} {i : Instruction}
    (h : parse id text = .ok i) :
    ∃ kind fields, Token.pieces text.toList = kind :: fields ∧
      i.positional = fields.filterMap (fun p => positionalText (Token.ofPiece p)) ∧
      (∀ key value, i.named[key]? = some value ↔
        ∃ p ∈ fields, (Token.ofPiece p).field? = some (key, value)) ∧
      ∀ p ∈ fields,
        (∀ key value,
          (Token.ofPiece p).field? = some (String.ofList key, String.ofList value) →
            ∃ quoted, Token.FirstColon p key quoted value ∧ (quoted = true → key ++ ['"'] <+: p)) ∧
        ∀ key value, Token.FirstColon p key true value →
          if Text.isKey (String.ofList key) = true ∧ key ++ ['"'] <+: p then
            (Token.ofPiece p).field? = some (String.ofList key, String.ofList value)
          else
            positionalText (Token.ofPiece p) =
              some (String.ofList ((Token.decode .plain p).map Prod.fst)) := by
  obtain ⟨kind, fields, named, hscan, -, hnamed, rfl⟩ := parse_eq_ok_iff.mp h
  obtain ⟨-, htokens⟩ := Token.scan_eq_ok_iff.mp hscan
  obtain ⟨kind', fields', hpieces, -, rfl⟩ := List.map_eq_cons_iff.mp htokens.symm
  refine ⟨kind', fields', hpieces, List.filterMap_map .., ?_, fun p _ => ⟨?_, ?_⟩⟩
  · intro key value
    rw [getElem?_foldlM_addNamed hnamed]
    simp only [Std.ExtTreeMap.getElem?_empty, reduceCtorEq, false_or, List.mem_map,
      exists_exists_and_eq_and]
  · intro key value hfield
    obtain ⟨⟨quoted, hcolon⟩, hkey, hfront⟩ := Token.field?_ofPiece_eq_some_iff.mp hfield
    refine ⟨quoted, hcolon, ?_⟩
    rintro rfl
    exact hcolon.opens_at_colon (Token.quote_not_mem_key hkey) hfront
  · intro key value hcolon
    have hfield := Token.field?_ofPiece_of_quoted hcolon
    split_ifs with hopens
    · rw [hfield, if_pos hopens]
    · rw [if_neg hopens] at hfield
      exact positionalText_of_field?_eq_none hfield

/-- Quotes that are opened at the front of a piece, behind a colon, and right behind a key. -/
theorem quoted_colon_separates_iff_front :
    let text := "test \"a:b\" x:\"c:d\" y\":\"z"
    ∃ i, parse ⟨none, "t1"⟩ text = .ok i ∧
      Token.pieces text.toList = ["test".toList, "\"a:b\"".toList, "x:\"c:d\"".toList,
        "y\":\"z".toList] ∧
      i.positional = ["a:b"] ∧ i.named["x"]? = some "c:d" ∧
      Token.FirstColon "\"a:b\"".toList ['a'] true ['b'] ∧
      positionalText (Token.ofPiece "\"a:b\"".toList) = some "a:b" ∧
      Token.FirstColon "y\":\"z".toList ['y'] true ['z'] ∧
      (Token.ofPiece "y\":\"z".toList).field? = some ("y", "z") := by
  intro text
  have hok : (parse ⟨none, "t1"⟩ text).isOk = true := by decide
  have hpieces : Token.pieces text.toList = ["test".toList, "\"a:b\"".toList, "x:\"c:d\"".toList,
      "y\":\"z".toList] := by decide
  have hfront : Token.FirstColon "\"a:b\"".toList ['a'] true ['b'] :=
    ⟨[('a', true)], [('b', true)], by decide⟩
  have hbehind : Token.FirstColon "y\":\"z".toList ['y'] true ['z'] :=
    ⟨[('y', false)], [('z', false)], by decide⟩
  obtain ⟨i, hparse⟩ := exists_of_isOk hok
  obtain ⟨kind, fields, hfields, hpositional, hnamed, hall⟩ := quoted_colon_separates_iff hparse
  obtain ⟨rfl, rfl⟩ := List.cons.inj (hpieces.symm.trans hfields)
  refine ⟨i, hparse, hpieces, hpositional.trans (by decide), ?_, hfront, ?_, hbehind, ?_⟩
  · exact (hnamed _ _).mpr ⟨"x:\"c:d\"".toList, by decide, by decide⟩
  · obtain ⟨-, hkept⟩ := hall "\"a:b\"".toList (by decide)
    have hleaves := hkept ['a'] ['b'] hfront
    rwa [if_neg (by decide)] at hleaves
  · obtain ⟨-, hopened⟩ := hall "y\":\"z".toList (by decide)
    have hseparates := hopened ['y'] ['z'] hbehind
    rwa [if_pos (by decide)] at hseparates

/-- **A colon in quotes separates** where the quotes are opened right behind a key. -/
theorem quoted_colon_separates :
    ∃ i, parse ⟨none, "t1"⟩ "test c a\":\"b" = .ok i ∧ i.positional = ["c"] ∧
      i.named["a"]? = some "b" ∧
      Token.pieces "test c a\":\"b".toList = ["test".toList, ['c'], "a\":\"b".toList] ∧
      Token.FirstColon "a\":\"b".toList ['a'] true ['b'] := by
  have hparse : parse ⟨none, "t1"⟩ "test c a\":\"b" = .ok
      ⟨⟨none, "t1"⟩, "test c a\":\"b", "test", ["c"], Dict.ofPairs [("a", "b")]⟩ := by rfl
  refine ⟨_, hparse, rfl, by decide, by decide, [('a', false)], [('b', false)], ?_⟩
  exact ⟨rfl, rfl, rfl, by decide⟩

end Instruction

end QuestCheck
