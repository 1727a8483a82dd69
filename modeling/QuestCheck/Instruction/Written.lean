import QuestCheck.Instruction
import QuestCheck.Token.Written

/-!
# Writing instructions

An instruction is written with its kind first, then its positional fields and then its named
fields, each value in quotes and the named fields in the order of their keys.

* `Writable`: a kind and named fields that can be written;
* `Instruction.written`;
* `field?_positional`, `field?_named`: a colon in quotes separates nothing;
* **`parse_written`**: what is written is read as it was.
-/

namespace QuestCheck

/-- A kind and named fields that can be written: the kind is a word without quotes, the keys are
keys and no named field is empty. -/
structure Writable (kind : String) (named : Dict String) : Prop where
  kind_ne : kind.toList ≠ []
  kind_plain : ∀ c ∈ kind.toList, Text.isBlank c = false ∧ c ≠ '"'
  key : ∀ p ∈ named.toList, Text.isKey p.1 = true
  value_ne : ∀ p ∈ named.toList, p.2 ≠ ""

namespace Token

/-- The token of a positional field in quotes. -/
def positional (text : String) : Token := ⟨text.toList, some 0⟩

/-- The token of a named field with its value in quotes. -/
def named (p : String × String) : Token :=
  ⟨p.1.toList ++ ':' :: p.2.toList, some (p.1.toList.length + 1)⟩

/-- The text of a named field. -/
def quoteNamed (p : String × String) : List Char := p.1.toList ++ [':'] ++ quote p.2.toList

theorem written_positional (text : String) : Written (quote text.toList) (positional text) :=
  Written.quote text.toList

theorem written_named {p : String × String} (h : Text.isKey p.1 = true) :
    Written (quoteNamed p) (named p) := by
  have hw : Written (p.1.toList ++ [':']) ⟨p.1.toList ++ [':'], none⟩ := by
    refine Written.word (by simp) fun c hc => ?_
    rcases List.mem_append.mp hc with hc | hc
    · have hp := Text.isNameChar_plain (Text.isNameChar_of_mem_key h hc)
      exact ⟨hp.1, hp.2.1⟩
    · rw [List.mem_singleton] at hc
      subst hc
      decide
  have h := hw.append (Written.quote p.2.toList)
  have e : named p = ⟨p.1.toList ++ [':'], none⟩ ++ ⟨p.2.toList, some 0⟩ := by
    simp [named, append_def]
  rw [e]
  exact h

/-- A field in quotes is positional, whatever colons it holds. -/
theorem field?_positional (text : String) : (positional text).field? = none := by
  rw [field?]
  split
  · rfl
  · next key value _ =>
    cases key with
    | nil => simp [positional, Text.isKey]
    | cons c r => simp [positional]

/-- The first colon of a named field separates its key from its value. -/
theorem field?_named {p : String × String} (h : Text.isKey p.1 = true) :
    (named p).field? = some p := by
  have hcut : Text.cutAt ':' (named p).text = some (p.1.toList, p.2.toList) :=
    Text.cutAt_eq_some_iff.mpr ⟨rfl, fun hc =>
      (Text.isNameChar_plain (Text.isNameChar_of_mem_key h hc)).2.2 rfl⟩
  rw [field?, hcut]
  simp [named, h]

end Token

namespace Instruction

/-- The tokens behind the kind. -/
def fieldTokens (positional : List String) (named : Dict String) : List Token :=
  positional.map Token.positional ++ named.toList.map Token.named

/-- The texts of the tokens behind the kind. -/
def fieldTexts (positional : List String) (named : Dict String) : List (List Char) :=
  positional.map (fun text => Token.quote text.toList) ++ named.toList.map Token.quoteNamed

/-- The text of an instruction. -/
def written (kind : String) (positional : List String) (named : Dict String) : String :=
  String.ofList (kind.toList ++ (fieldTexts positional named).flatMap (' ' :: ·))

variable {kind : String} {named : Dict String}

/-- The tokens of what is written. -/
theorem scan_written (h : Writable kind named) (positional : List String) :
    Token.scan (written kind positional named).toList =
      .ok (⟨kind.toList, none⟩ :: fieldTokens positional named) := by
  have hf := Token.find_separated (l :=
    positional.map (fun text => (Token.quote text.toList, Token.positional text)) ++
      named.toList.map fun p => (Token.quoteNamed p, Token.named p)) <| by
    intro q hq
    rcases List.mem_append.mp hq with hq | hq
    · obtain ⟨text, _, rfl⟩ := List.mem_map.mp hq
      exact Token.written_positional text
    · obtain ⟨p, hp, rfl⟩ := List.mem_map.mp hq
      exact Token.written_named (h.key p hp)
  have hr : Token.find .plain ((fieldTexts positional named).flatMap (' ' :: ·)) =
      .ok ⟨none, fieldTokens positional named⟩ := by
    simpa [fieldTexts, fieldTokens, List.flatMap_append, List.flatMap_map, Function.comp_def]
      using hf
  rw [Token.scan, written, String.toList_ofList,
    (Token.Written.word h.kind_ne h.kind_plain).find_append hr]
  rfl

theorem foldlM_addNamed_positional (texts : List String) (d : Dict String) :
    (texts.map Token.positional).foldlM addNamed d = .ok d := by
  induction texts with
  | nil => rfl
  | cons t r ih =>
    rw [List.map_cons, List.foldlM_cons, addNamed, Token.field?_positional]
    exact ih

theorem foldlM_addNamed_named {pairs : List (String × String)}
    (hk : ∀ p ∈ pairs, Text.isKey p.1 = true) (hv : ∀ p ∈ pairs, p.2 ≠ "")
    (hn : (pairs.map Prod.fst).Nodup) {d : Dict String} (hd : ∀ p ∈ pairs, p.1 ∉ d) :
    (pairs.map Token.named).foldlM addNamed d = .ok (d.insertMany pairs) := by
  induction pairs generalizing d with
  | nil => simp; rfl
  | cons p r ih =>
    rw [List.map_cons, List.nodup_cons] at hn
    have hp := List.mem_cons_self (a := p) (l := r)
    have hs : ∀ q ∈ r, q ∈ p :: r := fun q hq => List.mem_cons_of_mem p hq
    have step : addNamed d (Token.named p) = .ok (d.insert p.1 p.2) := by
      rw [addNamed, Token.field?_named (hk p hp)]
      simp [hv p hp, hd p hp]
    rw [List.map_cons, List.foldlM_cons, step]
    refine (ih (fun q hq => hk q (hs q hq)) (fun q hq => hv q (hs q hq)) hn.2 ?_).trans ?_
    · intro q hq hm
      rw [Std.ExtTreeMap.mem_insert] at hm
      rcases hm with hm | hm
      · have e : p.1 = q.1 := by simpa using hm
        exact hn.1 (e ▸ List.mem_map_of_mem hq)
      · exact hd q (hs q hq) hm
    · rw [Std.ExtTreeMap.insertMany_cons]

theorem filterMap_positional (texts : List String) :
    (texts.map Token.positional).filterMap positionalText = texts := by
  induction texts with
  | nil => rfl
  | cons t r ih =>
    rw [List.map_cons, List.filterMap_cons, positionalText, Token.field?_positional, ih]
    simp [Token.positional]

theorem filterMap_named {pairs : List (String × String)}
    (hk : ∀ p ∈ pairs, Text.isKey p.1 = true) :
    (pairs.map Token.named).filterMap positionalText = [] := by
  rw [List.filterMap_eq_nil_iff]
  intro t ht
  obtain ⟨p, hp, rfl⟩ := List.mem_map.mp ht
  rw [positionalText, Token.field?_named (hk p hp)]

/-- The last character of words, each behind a space and ended by a quote. -/
theorem getLast?_separated {words : List (List Char)} (h : ∀ w ∈ words, w.getLast? = some '"')
    {front : List Char} {c : Char}
    (hc : (front ++ words.flatMap (' ' :: ·)).getLast? = some c) :
    front.getLast? = some c ∨ c = '"' := by
  induction words generalizing front with
  | nil => exact .inl (by simpa using hc)
  | cons w r ih =>
    rw [List.flatMap_cons, ← List.append_assoc] at hc
    rcases ih (fun v hv => h v (List.mem_cons_of_mem w hv)) hc with hw | hw
    · have := h w List.mem_cons_self
      simp [List.getLast?_append, List.getLast?_cons, this] at hw
      exact .inr hw.symm
    · exact .inr hw

theorem getLast?_fieldTexts {positional : List String} {w : List Char}
    (h : w ∈ fieldTexts positional named) : w.getLast? = some '"' := by
  rcases List.mem_append.mp h with h | h
  · obtain ⟨text, _, rfl⟩ := List.mem_map.mp h
    exact Token.getLast?_quote text.toList
  · obtain ⟨p, _, rfl⟩ := List.mem_map.mp h
    rw [Token.quoteNamed, List.getLast?_append, Token.getLast?_quote]
    rfl

/-- Nothing is lost where the ends of what is written are trimmed. -/
theorem trimmed_written (h : Writable kind named) (positional : List String) :
    Text.trimmed (written kind positional named) = written kind positional named := by
  rw [Text.trimmed, written, String.toList_ofList, Text.trim_eq_self]
  · intro c hc
    rw [List.head?_append, Option.or_of_isSome (by simp [h.kind_ne])] at hc
    exact (h.kind_plain c (List.mem_of_head? hc)).1
  · intro c hc
    rcases getLast?_separated (fun w hw => getLast?_fieldTexts hw) hc with hc | rfl
    · exact (h.kind_plain c (List.mem_of_getLast? hc)).1
    · decide

/-- **What is written is read as it was.** -/
theorem parse_written (h : Writable kind named) (positional : List String) (id : QualifiedName) :
    parse id (written kind positional named) =
      .ok ⟨id, written kind positional named, kind, positional, named⟩ := by
  have hp : (fieldTokens positional named).filterMap positionalText = positional := by
    rw [fieldTokens, List.filterMap_append, filterMap_positional,
      filterMap_named h.key, List.append_nil]
  have hn : (fieldTokens positional named).foldlM addNamed ∅ = .ok named := by
    rw [fieldTokens, List.foldlM_append, foldlM_addNamed_positional]
    refine (foldlM_addNamed_named h.key h.value_ne (Dict.nodup_keys_toList named) ?_).trans ?_
    · simp
    · rw [← Std.ExtTreeMap.ofList_eq_insertMany_empty]
      exact congrArg Except.ok (Dict.ofPairs_toList named)
  rw [parse, scan_written h, trimmed_written h]
  show (ofTokens id _ (_ :: _)).mapError _ = _
  rw [ofTokens_of_word rfl h.kind_ne, hn, hp, String.ofList_toList]
  rfl

end Instruction

end QuestCheck
