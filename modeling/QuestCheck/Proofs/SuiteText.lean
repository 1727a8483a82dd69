import QuestCheck.Proofs.Lines
import QuestCheck.Proofs.Pieces

/-!
# Writing suites

A suite is written line by line: an item is its name, a colon and its instruction with all values in
quotes, and blank lines and comments may stand anywhere. Each line ends with a line feed, which may
have a carriage return before it. Reading undoes this, whatever the values hold: a colon, a `#`, a
quote or a blank in a value is no mark of the line, since the line starts with a name and ends in a
quote or in the kind.

* `Instruction.parse_cons_of_blank`: a blank in front says nothing;
* `Item`, its `instruction` and its `line`; `Item.OneLine`: it can be written on one line;
* `Item.trim_line`, `Item.declaration?_line`: what its line declares;
* `Row`, `Ending`, `Suite.textOf`: the text of a suite;
* `parseLines_rows`: rows are read one by one;
* **`parse_textOf`**: what is written is read as it was.
-/

namespace QuestCheck

/-! ## Blanks in front -/

theorem Instruction.parse_cons_of_blank {c : Char} (h : Text.isBlank c = true)
    (id : QualifiedName) (text : String) :
    parse id (String.ofList (c :: text.toList)) = parse id text := by
  have htrimmed : Text.trimmed (String.ofList (c :: text.toList)) = Text.trimmed text := by
    have hc : ∀ d ∈ [c], Text.isBlank d = true := by simpa using h
    unfold Text.trimmed
    rw [String.toList_ofList, ← List.singleton_append, Text.trim_append_left hc]
  unfold parse
  rw [String.toList_ofList, Token.scan_cons_of_blank h, htrimmed]

/-! ## Line feeds -/

theorem Text.isBlank_feed : isBlank '\n' = true := by decide

theorem Token.feed_not_mem_quote {text : List Char} (h : '\n' ∉ text) : '\n' ∉ quote text := by
  have hprotect : ∀ c ∈ text, '\n' ∉ protectChar c := by
    intro c hc
    have hne : '\n' ≠ c := fun e => h (e ▸ hc)
    unfold protectChar
    split_ifs <;> simp [hne]
  intro hmem
  rw [quote, List.mem_cons, List.mem_append, List.mem_flatMap] at hmem
  rcases hmem with hmem | ⟨c, hc, hmem⟩ | hmem
  · cases hmem
  · exact hprotect c hc hmem
  · simp at hmem

theorem Text.feed_not_mem_of_plain {cs : List Char} (h : ∀ c ∈ cs, isBlank c = false) :
    '\n' ∉ cs := by
  intro hmem
  have hplain := h '\n' hmem
  rw [isBlank_feed] at hplain
  cases hplain

theorem Text.feed_not_mem_key {key : String} (h : isKey key = true) : '\n' ∉ key.toList :=
  feed_not_mem_of_plain fun _ hc => (isNameChar_plain (isNameChar_of_mem_key h hc)).1

namespace Suite

/-! ## Items -/

/-- What an item of a suite says. -/
structure Item where
  name : String
  kind : String
  positional : List String
  named : Dict String

namespace Item

/-- The item can be written on one line. -/
structure OneLine (e : Item) : Prop where
  name : Text.isName e.name = true
  writable : Writable e.kind e.named
  positional : ∀ text ∈ e.positional, '\n' ∉ text.toList
  named : ∀ p ∈ e.named.toList, '\n' ∉ p.2.toList

/-- The instruction as it is written. -/
def source (e : Item) : String := Instruction.written e.kind e.positional e.named

/-- The instruction that the item says in a package. -/
def instruction (package : Option String) (e : Item) : Instruction :=
  ⟨⟨package, e.name⟩, e.source, e.kind, e.positional, e.named⟩

/-- The line of the item. -/
def line (e : Item) : List Char := e.name.toList ++ ':' :: ' ' :: e.source.toList

variable {e : Item} {mark : List Char}

theorem OneLine.name_plain (h : e.OneLine) :
    ∀ c ∈ e.name.toList, Text.isBlank c = false ∧ c ≠ '"' ∧ c ≠ ':' :=
  fun c hc => Text.isNameChar_plain ((Text.isName_iff.mp h.name).2 c hc)

theorem OneLine.feed_not_mem_line (h : e.OneLine) : '\n' ∉ e.line := by
  have hname : '\n' ∉ e.name.toList :=
    Text.feed_not_mem_of_plain fun c hc => (h.name_plain c hc).1
  have hkind : '\n' ∉ e.kind.toList :=
    Text.feed_not_mem_of_plain fun c hc => (h.writable.kind_plain c hc).1
  have hfields : ∀ text ∈ Instruction.fieldTexts e.positional e.named, '\n' ∉ text := by
    intro text htext
    rcases List.mem_append.mp htext with htext | htext
    · obtain ⟨value, hvalue, rfl⟩ := List.mem_map.mp htext
      exact Token.feed_not_mem_quote (h.positional value hvalue)
    · obtain ⟨p, hp, rfl⟩ := List.mem_map.mp htext
      have hkey := Text.feed_not_mem_key (h.writable.key p hp)
      have hvalue := Token.feed_not_mem_quote (h.named p hp)
      simp [Token.quoteNamed, hkey, hvalue]
  simp only [line, source, Instruction.written, String.toList_ofList, List.mem_append,
    List.mem_cons, List.mem_flatMap, not_or, not_exists, not_and]
  exact ⟨hname, by decide, by decide, hkind, fun text htext => ⟨by decide, hfields text htext⟩⟩

theorem OneLine.head?_line (h : e.OneLine) {c : Char} (hc : e.line.head? = some c) :
    Text.isNameChar c = true := by
  obtain ⟨hne, hall⟩ := Text.isName_iff.mp h.name
  cases hname : e.name.toList with
  | nil => exact absurd hname hne
  | cons d r =>
    have hmem : d ∈ e.name.toList := by
      rw [hname]
      exact List.mem_cons_self
    rw [line, hname] at hc
    obtain rfl : d = c := Option.some.inj hc
    exact hall d hmem

theorem OneLine.getLast?_line (h : e.OneLine) {c : Char} (hc : e.line.getLast? = some c) :
    Text.isBlank c = false := by
  have hline : e.line = (e.name.toList ++ [':', ' '] ++ e.kind.toList) ++
      (Instruction.fieldTexts e.positional e.named).flatMap (' ' :: ·) := by
    simp [line, source, Instruction.written]
  have hkind := List.getLast?_eq_some_getLast h.writable.kind_ne
  rw [hline] at hc
  rcases Instruction.getLast?_separated (fun w hw => Instruction.getLast?_fieldTexts hw) hc with
    hc | rfl
  · rw [List.getLast?_append, hkind, Option.some_or, ← hkind] at hc
    exact (h.writable.kind_plain c (List.mem_of_getLast? hc)).1
  · decide

theorem OneLine.trim_line (h : e.OneLine) (hmark : ∀ c ∈ mark, Text.isBlank c = true) :
    Text.trim (e.line ++ mark) = e.line := by
  have hhead : ∀ c, e.line.head? = some c → Text.isBlank c = false :=
    fun c hc => (Text.isNameChar_plain (h.head?_line hc)).1
  have hne : e.line ≠ [] := by
    simp [line]
  rw [Text.trim_append_right hmark hne hhead, Text.trimEnd_eq_self fun c hc => h.getLast?_line hc]

theorem OneLine.speaks (h : e.OneLine) (hmark : ∀ c ∈ mark, Text.isBlank c = true) :
    Speaks (e.line ++ mark) := by
  unfold Speaks
  rw [h.trim_line hmark]
  refine ⟨by simp [line], fun hc => ?_⟩
  have hname := h.head?_line hc
  revert hname
  decide

theorem OneLine.declaration?_line (h : e.OneLine) (hmark : ∀ c ∈ mark, Text.isBlank c = true)
    (package : Option String) :
    declaration? package (e.line ++ mark) =
      some ⟨⟨package, e.name⟩, String.ofList (' ' :: e.source.toList)⟩ := by
  have hcut : Text.cutAt ':' e.line = some (e.name.toList, ' ' :: e.source.toList) :=
    Text.cutAt_eq_some_iff.mpr ⟨rfl, fun hc => (h.name_plain ':' hc).2.2 rfl⟩
  have hname : Text.trim e.name.toList = e.name.toList :=
    Text.trim_eq_self (fun c hc => (h.name_plain c (List.mem_of_head? hc)).1)
      fun c hc => (h.name_plain c (List.mem_of_getLast? hc)).1
  rw [declaration?, h.trim_line hmark, hcut, Option.map_some, hname, String.ofList_toList]

theorem OneLine.parse_declared (h : e.OneLine) (package : Option String) :
    Instruction.parse ⟨package, e.name⟩ (String.ofList (' ' :: e.source.toList)) =
      .ok (e.instruction package) := by
  rw [Instruction.parse_cons_of_blank (by decide)]
  exact Instruction.parse_written h.writable e.positional _

end Item

/-! ## Rows -/

/-- A row of a suite: an item, a line of blanks, or a comment behind blanks. -/
inductive Row where
  | item (e : Item)
  | blank (blanks : List Char)
  | comment (indent text : List Char)

namespace Row

def chars : Row → List Char
  | item e => e.line
  | blank blanks => blanks
  | comment indent text => indent ++ '#' :: text

/-- The row is one line of its kind. -/
def Legal : Row → Prop
  | item e => e.OneLine
  | blank blanks => ∀ c ∈ blanks, Text.isBlank c = true ∧ c ≠ '\n'
  | comment indent text => (∀ c ∈ indent, Text.isBlank c = true ∧ c ≠ '\n') ∧ '\n' ∉ text

def item? : Row → Option Item
  | item e => some e
  | _ => none

theorem Legal.feed_not_mem_chars {r : Row} (h : r.Legal) : '\n' ∉ r.chars := by
  cases r with
  | item e => exact Item.OneLine.feed_not_mem_line h
  | blank blanks => exact fun hmem => (h '\n' hmem).2 rfl
  | comment indent text =>
    obtain ⟨hindent, htext⟩ := h
    intro hmem
    rcases List.mem_append.mp hmem with hmem | hmem
    · exact (hindent '\n' hmem).2 rfl
    · rcases List.mem_cons.mp hmem with heq | hmem
      · cases heq
      · exact htext hmem

theorem Legal.not_speaks {r : Row} {mark : List Char} (h : r.Legal) (hitem : r.item? = none)
    (hmark : ∀ c ∈ mark, Text.isBlank c = true) : ¬ Speaks (r.chars ++ mark) := by
  cases r with
  | item e => cases hitem
  | blank blanks =>
    have htrim : Text.trim (blanks ++ mark) = [] := by
      rw [Text.trim_append_left fun c hc => (h c hc).1, Text.trim_blanks hmark]
    exact fun hspeaks => hspeaks.1 htrim
  | comment indent text =>
    have hchars : (comment indent text).chars ++ mark = indent ++ '#' :: (text ++ mark) :=
      List.append_assoc ..
    have htrim : (Text.trim ((comment indent text).chars ++ mark)).head? = some '#' := by
      rw [hchars, Text.trim_append_left fun c hc => (h.1 c hc).1, Text.head?_trim (by decide)]
    exact fun hspeaks => hspeaks.2 htrim

end Row

/-- The end of a line: a line feed, alone or behind a carriage return. -/
inductive Ending where
  | feed
  | returnFeed
  deriving DecidableEq

/-- What an ending has before its line feed. -/
def Ending.mark : Ending → List Char
  | feed => []
  | returnFeed => ['\r']

theorem Ending.isBlank_of_mem_mark {ending : Ending} :
    ∀ c ∈ ending.mark, Text.isBlank c = true := by
  cases ending with
  | feed => exact List.forall_mem_nil _
  | returnFeed => exact List.forall_mem_singleton.mpr (by decide)

/-- A suite with some rows. -/
def textOf (rows : List (Row × Ending)) : String :=
  String.ofList (rows.flatMap fun r => r.1.chars ++ r.2.mark ++ ['\n'])

/-- The items among some rows. -/
def items (rows : List (Row × Ending)) : List Item := rows.filterMap (·.1.item?)

theorem lines_textOf {rows : List (Row × Ending)} (h : ∀ r ∈ rows, r.1.Legal) :
    Text.lines (textOf rows).toList = rows.map (fun r => r.1.chars ++ r.2.mark) ++ [[]] := by
  have hlines : ∀ line ∈ rows.map (fun r => r.1.chars ++ r.2.mark), '\n' ∉ line := by
    intro line hline
    obtain ⟨r, hr, rfl⟩ := List.mem_map.mp hline
    have hmark : '\n' ∉ r.2.mark := by
      cases r.2 <;> decide
    rw [List.mem_append, not_or]
    exact ⟨(h r hr).feed_not_mem_chars, hmark⟩
  rw [← Text.lines_ended hlines, textOf, String.toList_ofList, List.flatMap_map]

theorem parseLines_rows {package : Option String} {rows : List (Row × Ending)}
    {taken : List String} (number : Nat) (h : ∀ r ∈ rows, r.1.Legal)
    (hnames : ((items rows).map (·.name)).Nodup) (htaken : ∀ e ∈ items rows, e.name ∉ taken) :
    parseLines package taken number (rows.map (fun r => r.1.chars ++ r.2.mark) ++ [[]]) =
      .ok ((items rows).map (·.instruction package)) := by
  induction rows generalizing taken number with
  | nil => rfl
  | cons r rows ih =>
    obtain ⟨hr, hrows⟩ := List.forall_mem_cons.mp h
    obtain ⟨row, ending⟩ := r
    have hmark := ending.isBlank_of_mem_mark
    rw [List.map_cons, List.cons_append]
    cases row with
    | blank blanks | comment indent text =>
      rw [parseLines_cons_of_not_speaks (hr.not_speaks rfl hmark)]
      exact ih (number + 1) hrows hnames htaken
    | item e =>
      have hitem : e.OneLine := hr
      have hitems : items ((Row.item e, ending) :: rows) = e :: items rows := rfl
      rw [hitems] at hnames htaken ⊢
      obtain ⟨hfresh, hdistinct⟩ := List.nodup_cons.mp hnames
      obtain ⟨hfree, hrest⟩ := List.forall_mem_cons.mp htaken
      have htaken' : ∀ d ∈ items rows, d.name ∉ e.name :: taken := by
        intro d hd
        rw [List.mem_cons, not_or]
        exact ⟨fun heq => hfresh (List.mem_map.mpr ⟨d, hd, heq⟩), hrest d hd⟩
      exact (parseLines_cons_of_speaks (hitem.speaks hmark)
        (hitem.declaration?_line hmark package)).mpr
          ⟨hitem.name, hfree, _, _, hitem.parse_declared package,
            ih (number + 1) hrows hdistinct htaken', rfl⟩

/-- **What is written is read as it was**, with any blank lines and comments between the items and
either ending of the lines. -/
theorem parse_textOf (package : Option String) {rows : List (Row × Ending)}
    (h : ∀ r ∈ rows, r.1.Legal) (hnames : ((items rows).map (·.name)).Nodup) :
    parse package (textOf rows) = .ok ((items rows).map (·.instruction package)) := by
  unfold parse
  rw [lines_textOf h]
  exact parseLines_rows 1 h hnames fun _ _ => List.not_mem_nil

/-- Two items whose values hold the marks of all layers, with a comment and a line of blanks. -/
theorem parse_textOf_marks :
    let t1 : Item := ⟨"t1", "test", ["a:\"b\" #\r"], Dict.ofPairs [("fail", "a\\b: # ")]⟩
    let t2 : Item := ⟨"t2", "x.y", [""], ∅⟩
    let rows : List (Row × Ending) := [(.comment [' '] ['t', '1', ':'], .feed),
      (.item t1, .returnFeed), (.blank ['\t', '\r'], .feed), (.item t2, .feed)]
    textOf rows = " #t1:\n" ++ "t1: test \"a:\\\"b\\\" #\r\" fail:\"a\\\\b: # \"\r\n" ++ "\t\r\n" ++
        "t2: x.y \"\"\n" ∧
      parse (some "town") (textOf rows) =
        .ok [t1.instruction (some "town"), t2.instruction (some "town")] := by
  intro t1 t2 rows
  have hnamed : t1.named.toList = [("fail", "a\\b: # ")] := by rfl
  have hnone : t2.named.toList = [] := by rfl
  have hplain : ∀ kind, Text.isName kind = true →
      ∀ c ∈ kind.toList, Text.isBlank c = false ∧ c ≠ '"' := by
    intro kind hkind c hc
    have hchar := Text.isNameChar_plain ((Text.isName_iff.mp hkind).2 c hc)
    exact ⟨hchar.1, hchar.2.1⟩
  have h1 : t1.OneLine := by
    refine ⟨by decide, ⟨by decide, hplain _ (by decide), ?_, ?_⟩, by decide, ?_⟩ <;>
      rw [hnamed] <;> decide
  have h2 : t2.OneLine := by
    refine ⟨by decide, ⟨by decide, hplain _ (by decide), ?_, ?_⟩, by decide, ?_⟩ <;>
      rw [hnone] <;> decide
  have hlegal : ∀ r ∈ rows, r.1.Legal := by
    simp only [rows, List.forall_mem_cons]
    have hblank : ∀ c ∈ [' ', '\t', '\r'], Text.isBlank c = true ∧ c ≠ '\n' := by
      simp only [List.forall_mem_cons]
      exact ⟨by decide, by decide, by decide, nofun⟩
    have hindent : ∀ c ∈ [' '], Text.isBlank c = true ∧ c ≠ '\n' :=
      List.forall_mem_singleton.mpr (hblank ' ' List.mem_cons_self)
    have hblanks : ∀ c ∈ ['\t', '\r'], Text.isBlank c = true ∧ c ≠ '\n' := fun c hc =>
      hblank c (List.mem_cons_of_mem _ hc)
    exact ⟨⟨hindent, by decide⟩, h1, hblanks, h2, nofun⟩
  refine ⟨?_, parse_textOf (some "town") hlegal (by decide)⟩
  have hsource1 : t1.source.toList = "test \"a:\\\"b\\\" #\r\" fail:\"a\\\\b: # \"".toList := by
    rw [Item.source, Instruction.written, Instruction.fieldTexts, hnamed]
    decide
  have hsource2 : t2.source.toList = "x.y \"\"".toList := by
    rw [Item.source, Instruction.written, Instruction.fieldTexts, hnone]
    decide
  simp only [textOf, rows, List.flatMap_cons, List.flatMap_nil, Row.chars, Item.line, hsource1,
    hsource2]
  decide

end Suite

end QuestCheck
