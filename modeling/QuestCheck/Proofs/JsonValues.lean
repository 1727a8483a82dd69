import QuestCheck.Proofs.JsonTexts

/-!
# Values in JSON

Null, truth values, texts and objects of such values are read as themselves from their written
forms, nested to any depth.

* `Lexer.scanFrom`: the lexemes of the rest of a text, from a state of the lexer;
* `Spells`: lexemes that are scanned from the written form of a value and of which it is built;
* `SpellsMembers`, `spells_object`: the lexemes of an object from those of its members;
* `Legible`: a value that some lexemes spell, and `legible_object`: an object of legible values;
* **`Legible.parse_print`**: a legible value is read as itself.
-/

namespace QuestCheck.Json

variable {done : List Lexeme} {rest : List Char} {v : Json}

/-! ## Scanning the rest of a text -/

namespace Lexer

/-- The lexemes of the rest of a text, from a state. -/
def scanFrom (s : State) (rest : List Char) : Option (List Lexeme) := rest.foldlM step s >>= finish

/-- No word goes on with the text. -/
def EndsWord (rest : List Char) : Prop := ∀ c, rest.head? = some c → isWordChar c = false

theorem endsWord_nil : EndsWord [] := nofun

theorem endsWord_cons {c : Char} (h : isWordChar c = false) (rest : List Char) :
    EndsWord (c :: rest) := by
  rintro d ⟨⟩
  exact h

theorem scanFrom_append {cs : List Char} {s t : State} (h : cs.foldlM step s = some t) :
    scanFrom s (cs ++ rest) = scanFrom t rest := by
  unfold scanFrom
  rw [List.foldlM_append, h]
  rfl

theorem scanFrom_word {word : List Char} {l : Lexeme} (hword : wordLexeme? word.reverse = some l)
    (hrest : EndsWord rest) :
    scanFrom ⟨.word word, done⟩ rest = scanFrom ⟨.between, l :: done⟩ rest := by
  cases rest with
  | nil =>
    -- the end of the text completes the word as any mark or blank does
    show (wordLexeme? word.reverse).map _ = _
    rw [hword]
    rfl
  | cons c rest =>
    have hstep : step ⟨.word word, done⟩ c = step ⟨.between, l :: done⟩ c := by
      have hc : isWordChar c = false := hrest c rfl
      simp only [step, hc, hword, Option.bind_some]
      rfl
    unfold scanFrom
    rw [List.foldlM_cons, List.foldlM_cons, hstep]

end Lexer

open Lexer

/-! ## Lexemes of a value -/

/-- The lexemes spell the value: its written form is scanned as them, in front of whatever no word
goes on with, and the value is built of them wherever a value may stand. -/
structure Spells (v : Json) (ls : List Lexeme) : Prop where
  scan : ∀ done rest, EndsWord rest →
    scanFrom ⟨.between, done⟩ (printBefore v rest) = scanFrom ⟨.between, ls.reverse ++ done⟩ rest
  build : ∀ stack, ls.foldlM Builder.step ⟨stack, .value⟩ = some ⟨stack, .complete v⟩

/-- The lexemes spell the members of an object: the closing brace behind them completes it, wherever
a key may stand. The first key and a key behind a comma are two foci, of which only what they do
with a key counts here. -/
structure SpellsMembers (members : List (List Piece × Json)) (ls : List Lexeme) : Prop where
  scan : ∀ done rest, EndsWord rest → scanFrom ⟨.between, done⟩ (printMembers members rest) =
    scanFrom ⟨.between, ls.reverse ++ done⟩ rest
  build : ∀ stack earlier focus,
    (∀ key, Builder.step ⟨stack, focus⟩ (.string key) = some ⟨stack, .colon earlier key⟩) →
    (ls ++ [Lexeme.mark '\x7d']).foldlM Builder.step ⟨stack, focus⟩ =
      some ⟨stack, .complete (.object (earlier.reverse ++ members))⟩

theorem spells_null : Spells .null [.null] where
  scan _ _ hrest := by
    have hword : wordLexeme? "llun".toList.reverse = some .null := rfl
    exact scanFrom_word hword hrest
  build _ := rfl

theorem spells_bool (b : Bool) : Spells (.bool b) [.bool b] where
  scan _ _ hrest := by
    cases b with
    | true =>
      have hword : wordLexeme? "eurt".toList.reverse = some (.bool true) := rfl
      exact scanFrom_word hword hrest
    | false =>
      have hword : wordLexeme? "eslaf".toList.reverse = some (.bool false) := rfl
      exact scanFrom_word hword hrest
  build _ := rfl

theorem spells_text (s : String) : Spells (text s) [.string (pieces s)] where
  scan done _ _ := scanFrom_append (foldlM_step_printString done s)
  build _ := rfl

/-- The lexemes of a member, in front of those of its value. -/
def keyLexemes (key : String) : List Lexeme := [.string (pieces key), .mark ':']

theorem scanFrom_key (key : String) :
    scanFrom ⟨.between, done⟩ (printString (pieces key) ++ ':' :: rest) =
      scanFrom ⟨.between, (keyLexemes key).reverse ++ done⟩ rest := by
  rw [scanFrom_append (foldlM_step_printString done key)]
  rfl

theorem foldlM_step_key {stack : List Builder.Frame} {earlier : List (List Piece × Json)}
    {focus : Builder.Focus} (key : String) (ls : List Lexeme)
    (hfocus : ∀ key, Builder.step ⟨stack, focus⟩ (.string key) = some ⟨stack, .colon earlier key⟩) :
    (keyLexemes key ++ ls).foldlM Builder.step ⟨stack, focus⟩ =
      ls.foldlM Builder.step ⟨.object earlier (pieces key) :: stack, .value⟩ := by
  show (Lexeme.string (pieces key) :: .mark ':' :: ls).foldlM Builder.step ⟨stack, focus⟩ = _
  rw [List.foldlM_cons, hfocus]
  rfl

theorem spellsMembers_singleton {key : String} {ls : List Lexeme} (hv : Spells v ls) :
    SpellsMembers [(pieces key, v)] (keyLexemes key ++ ls) where
  scan done rest hrest := by
    show scanFrom _ (printString (pieces key) ++ ':' :: printBefore v rest) = _
    rw [scanFrom_key, hv.scan _ _ hrest, List.reverse_append, List.append_assoc]
  build stack earlier focus hfocus := by
    rw [List.append_assoc, foldlM_step_key key _ hfocus, List.foldlM_append, hv.build]
    show some (⟨stack, .complete (.object ((pieces key, v) :: earlier).reverse)⟩ : Builder.State) =
      _
    rw [List.reverse_cons]

theorem SpellsMembers.cons {key : String} {m : List Piece × Json} {ms : List (List Piece × Json)}
    {ls ls' : List Lexeme} (hv : Spells v ls) (hms : SpellsMembers (m :: ms) ls') :
    SpellsMembers ((pieces key, v) :: m :: ms) (keyLexemes key ++ ls ++ .mark ',' :: ls') where
  scan done rest hrest := by
    have hcomma : EndsWord (',' :: printMembers (m :: ms) rest) := endsWord_cons rfl _
    show scanFrom _ (printString (pieces key) ++
      ':' :: printBefore v (',' :: printMembers (m :: ms) rest)) = _
    rw [scanFrom_key, hv.scan _ _ hcomma]
    show scanFrom ⟨.between, .mark ',' :: _⟩ (printMembers (m :: ms) rest) = _
    rw [hms.scan _ _ hrest]
    simp only [List.reverse_append, List.reverse_cons, List.append_assoc, List.cons_append,
      List.nil_append]
  build stack earlier focus hfocus := by
    simp only [List.append_assoc, List.cons_append]
    rw [foldlM_step_key key _ hfocus, List.foldlM_append, hv.build]
    show (ls' ++ [Lexeme.mark '\x7d']).foldlM Builder.step
      ⟨stack, .key ((pieces key, v) :: earlier)⟩ = _
    rw [hms.build stack ((pieces key, v) :: earlier) _ fun _ => rfl, List.reverse_cons,
      List.append_assoc, List.singleton_append]

theorem spells_empty : Spells (.object []) [.mark '\x7b', .mark '\x7d'] where
  scan _ _ _ := rfl
  build _ := rfl

/-- **An object is spelled by its members** between braces. -/
theorem spells_object {members : List (List Piece × Json)} {ls : List Lexeme}
    (h : SpellsMembers members ls) :
    Spells (.object members) (.mark '\x7b' :: ls ++ [.mark '\x7d']) where
  scan done rest _ := by
    have hbrace : EndsWord ('\x7d' :: rest) := endsWord_cons rfl _
    show scanFrom ⟨.between, .mark '\x7b' :: done⟩ (printMembers members ('\x7d' :: rest)) = _
    rw [h.scan _ _ hbrace]
    show scanFrom ⟨.between, .mark '\x7d' :: _⟩ rest = _
    simp
  build stack := by
    show (ls ++ [Lexeme.mark '\x7d']).foldlM Builder.step ⟨stack, .firstKey⟩ = _
    rw [h.build stack [] _ fun _ => rfl]
    rfl

/-! ## Legible values -/

/-- Some lexemes spell the value. -/
def Legible (v : Json) : Prop := ∃ ls, Spells v ls

theorem legible_null : Legible .null := ⟨_, spells_null⟩

theorem legible_bool (b : Bool) : Legible (.bool b) := ⟨_, spells_bool b⟩

theorem legible_text (s : String) : Legible (text s) := ⟨_, spells_text s⟩

theorem exists_spellsMembers {m : List Piece × Json} {ms : List (List Piece × Json)}
    (h : ∀ x ∈ m :: ms, (∃ key, x.1 = pieces key) ∧ Legible x.2) :
    ∃ ls, SpellsMembers (m :: ms) ls := by
  -- the last member has no comma behind it, so a single member is the base
  induction ms generalizing m with
  | nil =>
    obtain ⟨⟨key, hkey⟩, ls, hv⟩ := h m List.mem_cons_self
    obtain ⟨p, v⟩ := m
    subst hkey
    exact ⟨_, spellsMembers_singleton hv⟩
  | cons m' ms ih =>
    obtain ⟨⟨⟨key, hkey⟩, ls, hv⟩, hrest⟩ := List.forall_mem_cons.mp h
    obtain ⟨ls', hms⟩ := ih hrest
    obtain ⟨p, v⟩ := m
    subst hkey
    exact ⟨_, .cons hv hms⟩

theorem legible_object {members : List (List Piece × Json)}
    (h : ∀ m ∈ members, (∃ key, m.1 = pieces key) ∧ Legible m.2) : Legible (.object members) := by
  cases members with
  | nil => exact ⟨_, spells_empty⟩
  | cons m ms =>
    obtain ⟨ls, hms⟩ := exists_spellsMembers h
    exact ⟨_, spells_object hms⟩

/-- **A legible value is read as itself.** -/
theorem Legible.parse_print (h : Legible v) : parse v.print = some v := by
  obtain ⟨ls, hspells⟩ := h
  have hscan : Lexeme.scan v.print.toList = some ls := by
    rw [print, String.toList_ofList]
    apply (hspells.scan [] [] endsWord_nil).trans
    show some (ls.reverse ++ []).reverse = some ls
    rw [List.append_nil, List.reverse_reverse]
  unfold parse
  rw [hscan]
  show ls.foldlM Builder.step ⟨[], .value⟩ >>= Builder.finish = _
  rw [hspells.build]
  rfl

end QuestCheck.Json
