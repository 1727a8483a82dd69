import Mathlib.Tactic.SplitIfs
import QuestCheck.Instruction.Written

/-!
# The texts of instructions

Positional fields and the values of named fields may be any texts, but a kind is always a word, a
key is always a key, and a named field always has a value. An instruction with such a kind and such
keys and values has a text, and no other instruction has one.

* `Token.Wordlike`: a token without quotes is a word;
* `Token.sound_of_find`: a scan finds such tokens only, wherever it starts;
* `wordlike_of_mem_scan`, `isKey_of_field?`, `namedWritable_of_foldlM`: the parts that are read;
* `parse_eq_ok_iff`: an instruction is read from its tokens, each of which goes into it;
* `writable_of_parse`: what is read can be written;
* **`readable_iff_writable`**: exactly the instructions that can be written are ever read, and each
  is read from its written form.
-/

namespace QuestCheck

namespace Token

/-! ## Tokens without quotes -/

/-- A token without quotes is a word: not empty, and without blanks and quotes. -/
def Wordlike (t : Token) : Prop :=
  t.openedAt = none → t.text ≠ [] ∧ ∀ c ∈ t.text, Text.isBlank c = false ∧ c ≠ '"'

theorem wordlike_openQuote (t : Token) : Wordlike (openQuote t) := fun h => nomatch h

theorem wordlike_push {c : Char} {t : Token} (hb : Text.isBlank c = false) (hq : c ≠ '"')
    (ht : t = empty ∨ Wordlike t) : Wordlike (push c t) := by
  intro hopen
  have ht' : ∀ d ∈ t.text, Text.isBlank d = false ∧ d ≠ '"' := by
    rcases ht with rfl | ht
    · intro d hd
      cases hd
    · exact (ht (Option.map_eq_none_iff.mp hopen)).2
  refine ⟨List.cons_ne_nil _ _, fun d hd => ?_⟩
  rcases List.mem_cons.mp hd with rfl | hd
  · exact ⟨hb, hq⟩
  · exact ht' d hd

/-- What is found from a place on is sound: all later tokens are wordlike, and outside quotes the
token that begins there is so too. Inside quotes nothing is known of it, since the quote that opens
it stands further in front. -/
def Found.Sound (place : Place) (f : Found) : Prop :=
  (∀ t ∈ f.later, Wordlike t) ∧ (place = .plain → ∀ t ∈ f.here, Wordlike t)

theorem Found.Sound.wordlike {f : Found} (h : f.Sound .plain) : ∀ t ∈ f.tokens, Wordlike t := by
  intro t ht
  rcases List.mem_append.mp ht with ht | ht
  · exact h.2 rfl t (Option.mem_toList.mp ht)
  · exact h.1 t ht

theorem Found.Sound.current {f : Found} (h : f.Sound .plain) :
    f.current = empty ∨ Wordlike f.current := by
  obtain ⟨here, later⟩ := f
  cases here with
  | none => exact .inl rfl
  | some t => exact .inr (h.2 rfl t rfl)

theorem Found.Sound.inside {f : Found} {place place' : Place} (h : f.Sound place)
    (hplace : place' ≠ .plain) (g : Token → Token) : (f.modify g).Sound place' := by
  refine ⟨h.1, ?_⟩
  intro e
  exact absurd e hplace

/-- **A scan finds wordlike tokens only**, wherever in a text it starts. -/
theorem sound_of_find {place : Place} {text : List Char} {f : Found}
    (h : find place text = .ok f) : f.Sound place := by
  induction text generalizing place f with
  | nil =>
    cases place with
    | plain =>
      cases h
      exact ⟨fun t ht => (nomatch ht), fun _ t ht => (nomatch ht)⟩
    | quoted => cases h
    | escaping => cases h
  | cons c rest ih =>
    -- each character changes what is found behind it
    have hbehind : ∀ {p : Place} {g : Found → Found}, (find p rest).map g = .ok f →
        ∃ f', f'.Sound p ∧ f = g f' := by
      intro p g hmap
      cases hf : find p rest with
      | error defect =>
        rw [hf] at hmap
        cases hmap
      | ok f' =>
        rw [hf] at hmap
        cases hmap
        exact ⟨f', ih hf, rfl⟩
    cases place with
    | plain =>
      by_cases hq : c = '"'
      · subst hq
        rw [find_openQuote] at h
        obtain ⟨f', hf', rfl⟩ := hbehind h
        refine ⟨hf'.1, fun _ t ht => ?_⟩
        cases ht
        exact wordlike_openQuote _
      by_cases hb : Text.isBlank c = true
      · rw [find_blank rest hb] at h
        obtain ⟨f', hf', rfl⟩ := hbehind h
        exact ⟨hf'.wordlike, fun _ t ht => (nomatch ht)⟩
      · rw [Bool.not_eq_true] at hb
        rw [find_plain rest hb hq] at h
        obtain ⟨f', hf', rfl⟩ := hbehind h
        refine ⟨hf'.1, fun _ t ht => ?_⟩
        cases ht
        exact wordlike_push hb hq hf'.current
    | quoted =>
      by_cases hq : c = '"'
      · subst hq
        rw [find_closeQuote] at h
        obtain ⟨f', hf', rfl⟩ := hbehind h
        exact hf'.inside Place.noConfusion id
      by_cases hb : c = '\\'
      · subst hb
        rw [find_backslash] at h
        exact ⟨(ih h).1, Place.noConfusion⟩
      · rw [find_quoted rest hq hb] at h
        obtain ⟨f', hf', rfl⟩ := hbehind h
        exact hf'.inside Place.noConfusion (push c)
    | escaping =>
      obtain ⟨f', hf', rfl⟩ := hbehind h
      exact hf'.inside Place.noConfusion _

theorem wordlike_of_mem_scan {text : List Char} {tokens : List Token}
    (h : scan text = .ok tokens) : ∀ t ∈ tokens, Wordlike t := by
  unfold scan at h
  cases hf : find .plain text with
  | error defect =>
    rw [hf] at h
    cases h
  | ok f =>
    rw [hf] at h
    cases h
    exact (sound_of_find hf).wordlike

theorem isKey_of_field? {t : Token} {key value : String} (h : t.field? = some (key, value)) :
    Text.isKey key = true := by
  unfold field? at h
  split at h
  · cases h
  · split_ifs at h with hopen hkey
    cases h
    exact hkey

end Token

namespace Instruction

/-! ## Fields that are read -/

/-- Named fields that can be written: keys that are keys, and no empty value. -/
def NamedWritable (named : Dict String) : Prop :=
  ∀ key value, named[key]? = some value → Text.isKey key = true ∧ value ≠ ""

theorem namedWritable_addNamed {named named' : Dict String} {t : Token}
    (h : addNamed named t = .ok named') (hn : NamedWritable named) : NamedWritable named' := by
  unfold addNamed at h
  split at h
  · cases h
    exact hn
  · next key value hfield =>
    split_ifs at h with hempty hrepeated
    cases h
    intro k v hk
    by_cases hkey : key = k
    · subst hkey
      rw [Dict.getElem?_insert_self] at hk
      cases hk
      exact ⟨Token.isKey_of_field? hfield, hempty⟩
    · rw [Dict.getElem?_insert_of_ne _ hkey] at hk
      exact hn k v hk

theorem namedWritable_of_foldlM {tokens : List Token} {named named' : Dict String}
    (h : tokens.foldlM addNamed named = .ok named') (hn : NamedWritable named) :
    NamedWritable named' := by
  induction tokens generalizing named with
  | nil =>
    cases h
    exact hn
  | cons t rest ih =>
    rw [List.foldlM_cons] at h
    cases ht : addNamed named t with
    | error defect =>
      rw [ht] at h
      cases h
    | ok next =>
      rw [ht] at h
      exact ih h (namedWritable_addNamed ht hn)

/-- An instruction is read from its tokens: the first, without quotes, is its kind. -/
theorem parse_eq_ok_iff {id : QualifiedName} {source : String} {i : Instruction} :
    parse id source = .ok i ↔
      ∃ kind fields named, Token.scan source.toList = .ok (kind :: fields) ∧
        kind.openedAt = none ∧ fields.foldlM addNamed ∅ = .ok named ∧
        i = ⟨id, Text.trimmed source, String.ofList kind.text, fields.filterMap positionalText,
          named⟩ := by
  unfold parse
  cases hscan : Token.scan source.toList with
  | error defect => simp [bind, Except.bind, Except.mapError]
  | ok tokens =>
    cases tokens with
    | nil => simp [bind, Except.bind, Except.mapError, ofTokens]
    | cons kind fields =>
      cases hopen : kind.openedAt with
      | some n => simp [bind, Except.bind, Except.mapError, ofTokens, hopen]
      | none =>
        -- a token without quotes is a word, so that the kind is not empty
        obtain ⟨hne, -⟩ := Token.wordlike_of_mem_scan hscan kind List.mem_cons_self hopen
        cases hnamed : fields.foldlM addNamed ∅ with
        | error defect =>
          simp [bind, Except.bind, Except.mapError, Except.map, ofTokens_of_word hopen hne, hnamed]
        | ok named =>
          simp only [bind, Except.bind, Except.mapError, Except.map, ofTokens_of_word hopen hne,
            hnamed, Except.ok.injEq, List.cons.injEq]
          constructor
          · rintro rfl
            exact ⟨kind, fields, named, ⟨rfl, rfl⟩, hopen, hnamed, rfl⟩
          · rintro ⟨_, _, named', ⟨rfl, rfl⟩, -, hnamed', rfl⟩
            obtain rfl : named = named' := Except.ok.inj (hnamed.symm.trans hnamed')
            rfl

/-- **What is read can be written.** -/
theorem writable_of_parse {id : QualifiedName} {source : String} {i : Instruction}
    (h : parse id source = .ok i) : Writable i.kind i.named := by
  obtain ⟨kind, fields, named, hscan, hopen, hnamed, rfl⟩ := parse_eq_ok_iff.mp h
  obtain ⟨hne, hplain⟩ := Token.wordlike_of_mem_scan hscan kind List.mem_cons_self hopen
  have hwritable : NamedWritable named :=
    namedWritable_of_foldlM hnamed fun key value hk => by simp at hk
  have hmem : ∀ p ∈ named.toList, Text.isKey p.1 = true ∧ p.2 ≠ "" := fun p hp =>
    hwritable p.1 p.2 (Std.ExtTreeMap.mem_toList_iff_getElem?_eq_some.mp hp)
  exact ⟨by simpa using hne, by simpa using hplain, fun p hp => (hmem p hp).1,
    fun p hp => (hmem p hp).2⟩

/-- **Exactly the instructions that can be written are read**: the kind is a word without quotes,
keys are keys and no named field is empty. Each of them is read from its written form. -/
theorem readable_iff_writable (id : QualifiedName) (kind : String) (positional : List String)
    (named : Dict String) :
    ((∃ source i, parse id source = .ok i ∧ i.kind = kind ∧ i.positional = positional ∧
        i.named = named) ↔ Writable kind named) ∧
      (parse id (written kind positional named) =
          .ok ⟨id, written kind positional named, kind, positional, named⟩ ↔
        Writable kind named) := by
  have hread : Writable kind named → parse id (written kind positional named) =
      .ok ⟨id, written kind positional named, kind, positional, named⟩ :=
    fun h => parse_written h positional id
  refine ⟨⟨?_, fun h => ⟨_, _, hread h, rfl, rfl, rfl⟩⟩, writable_of_parse, hread⟩
  rintro ⟨source, i, hparse, rfl, -, rfl⟩
  exact writable_of_parse hparse

end Instruction

end QuestCheck
