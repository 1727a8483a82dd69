import QuestCheck.Proofs.Pieces
import QuestCheck.Proofs.Topmost

/-!
# Suites below one another

Nothing but the names that are taken and the number of the line passes from one part of a suite to
the next. So two suites with a line feed between them are read as one exactly if both are and share
no name, and each is rejected as before but for the numbers of its lines.

* `Instruction.not_isNumbered_of_parse`: an instruction is rejected without the number of a line;
* `Suite.Lowered`: the rejection of a line that stands further down;
* `parseLines_append`, `parseLines_eq_ok_iff_of_taken`, `lowered_of_parseLines`: lines below others;
* `Suite.spoken`, `parse_eq_ok_iff_of_spoken`: the instructions hang on what lines say;
* `Suite.Dressed`: silent lines and other ends of lines say nothing more;
* **`parse_joined`**: two suites below one another.
-/

namespace QuestCheck

/-! ## Defects with the number of a line -/

/-- The defect is told with the number of its line. -/
def Defect.IsNumbered : Defect → Prop
  | noColon | badLineName _ | repeatedLineName _ => True
  | _ => False

namespace Instruction

theorem not_isNumbered_of_foldlM {ts : List Token} {named : Dict String} {defect : Defect}
    (h : ts.foldlM addNamed named = .error defect) : ¬ defect.IsNumbered := by
  induction ts generalizing named with
  | nil => cases h
  | cons t ts ih =>
    rw [List.foldlM_cons] at h
    cases ht : addNamed named t with
    | ok next =>
      rw [ht] at h
      exact ih h
    | error defect' =>
      rw [ht] at h
      cases h
      unfold addNamed at ht
      split at ht
      · cases ht
      · split_ifs at ht
        · cases ht
          exact not_false
        · cases ht
          exact not_false

theorem not_isNumbered_of_scan {text : List Char} {defect : Defect}
    (h : Token.scan text = .error defect) : ¬ defect.IsNumbered := by
  rw [Token.scan_eq] at h
  split at h
  · cases h
  · cases h
    exact not_false
  · cases h
    exact not_false

/-- **An instruction is rejected without the number of a line.** -/
theorem not_isNumbered_of_parse {id : QualifiedName} {text : String} {rejection : Rejection}
    (h : parse id text = .error rejection) : ¬ rejection.defect.IsNumbered := by
  unfold parse at h
  cases hscan : Token.scan text.toList with
  | error defect =>
    rw [hscan] at h
    cases h
    exact not_isNumbered_of_scan hscan
  | ok tokens =>
    rw [hscan] at h
    change (ofTokens id (Text.trimmed text) tokens).mapError _ = _ at h
    cases tokens with
    | nil =>
      cases h
      exact not_false
    | cons kind fields =>
      by_cases hbad : (kind.openedAt.isSome || kind.text.isEmpty) = true
      · rw [ofTokens, if_pos hbad] at h
        cases h
        exact not_false
      · rw [ofTokens, if_neg hbad] at h
        cases hnamed : fields.foldlM addNamed ∅ with
        | ok named =>
          rw [hnamed] at h
          cases h
        | error defect =>
          rw [hnamed] at h
          cases h
          exact not_isNumbered_of_foldlM hnamed

end Instruction

namespace Suite

variable {package : Option String} {line : List Char} {lines : List (List Char)}
  {taken taken' : List String} {number n : Nat}

/-- The rejection of a line that stands some lines further down: where the number of the line is
told, it is greater by them. -/
inductive Lowered (package : Option String) (n : Nat) : Rejection → Rejection → Prop
  | place (number : Nat) {defect : Defect}
      (h : defect = .noColon ∨ ∃ name, defect = .badLineName name) :
      Lowered package n ⟨s!"{origin package}:{number}", defect⟩
        ⟨s!"{origin package}:{number + n}", defect⟩
  | repeated (subject : String) (number : Nat) :
      Lowered package n ⟨subject, .repeatedLineName number⟩
        ⟨subject, .repeatedLineName (number + n)⟩
  | unnumbered {rejection : Rejection} (h : ¬ rejection.defect.IsNumbered) :
      Lowered package n rejection rejection

/-! ## Lines below others -/

theorem mem_takenBy_iff {above : List (List Char)} {name : String} :
    name ∈ takenBy package above ↔ ∃ d ∈ declarationsIn package above, d.id.name = name := by
  simp [takenBy]

/-- **Lines below others are read behind them.** -/
theorem parseLines_append (package : Option String) (above xs ys : List (List Char)) :
    parseLines package (takenBy package above) (above.length + 1) (xs ++ ys) =
      match parseLines package (takenBy package above) (above.length + 1) xs with
      | .error rejection => .error rejection
      | .ok is => (parseLines package (takenBy package (above ++ xs)) ((above ++ xs).length + 1)
          ys).map (is ++ ·) := by
  induction xs generalizing above with
  | nil =>
    rw [List.nil_append, List.append_nil, parseLines]
    cases parseLines package (takenBy package above) (above.length + 1) ys <;> rfl
  | cons x xs ih =>
    rw [List.cons_append, parseLines_cons, parseLines_cons, ih, List.append_assoc,
      List.singleton_append]
    cases readLine package above x with
    | error rejection => rfl
    | ok said =>
      cases parseLines package (takenBy package (above ++ [x])) ((above ++ [x]).length + 1) xs with
      | error rejection => rfl
      | ok is =>
        cases hys : parseLines package (takenBy package (above ++ x :: xs))
            ((above ++ x :: xs).length + 1) ys with
        | error rejection => rfl
        | ok is' => simp [Except.map]

theorem parseLines_eq_ok_iff_of_taken {is : List Instruction} :
    parseLines package taken number lines = .ok is ↔
      parseLines package [] 1 lines = .ok is ∧
        ∀ d ∈ declarationsIn package lines, d.id.name ∉ taken := by
  rw [parseLines_eq_ok_iff, parseLines_eq_ok_iff]
  constructor
  · rintro ⟨⟨hcolon, hname, hnodup, hfree⟩, his⟩
    exact ⟨⟨⟨hcolon, hname, hnodup, fun d _ => List.not_mem_nil⟩, his⟩, hfree⟩
  · rintro ⟨⟨⟨hcolon, hname, hnodup, -⟩, his⟩, hfree⟩
    exact ⟨⟨hcolon, hname, hnodup, hfree⟩, his⟩

theorem defect_of_entry {defect : Defect} (h : entry line = .error defect) :
    defect = .noColon ∨ ∃ name, defect = .badLineName name := by
  have hspeaks : Speaks line := by
    by_contra hnot
    rw [entry_of_not_speaks hnot] at h
    cases h
  rw [@entry_of_speaks none line hspeaks] at h
  split at h
  · cases h
    exact .inl rfl
  · split_ifs at h
    cases h
    exact .inr ⟨_, rfl⟩

/-- **Lines are rejected further down as further up**, if of their names the same are taken. -/
theorem lowered_of_parseLines {rejection : Rejection}
    (htaken : ∀ d ∈ declarationsIn package lines, d.id.name ∈ taken' ↔ d.id.name ∈ taken)
    (h : parseLines package taken number lines = .error rejection) :
    ∃ rejection', parseLines package taken' (number + n) lines = .error rejection' ∧
      Lowered package n rejection rejection' := by
  induction lines generalizing taken taken' number with
  | nil => cases h
  | cons line rest ih =>
    have hnumber : number + n + 1 = number + 1 + n := Nat.add_right_comm number n 1
    rw [parseLines] at h ⊢
    cases hentry : entry line with
    | error defect =>
      rw [hentry] at h
      cases h
      exact ⟨_, rfl, .place number (defect_of_entry hentry)⟩
    | ok said =>
      rw [hentry] at h
      cases said with
      | none =>
        rw [declarationsIn_cons_of_not_speaks (not_speaks_of_entry hentry)] at htaken
        simp only [hnumber]
        exact ih htaken h
      | some declared =>
        obtain ⟨name, text⟩ := declared
        obtain ⟨hspeaks, -, hd⟩ := declared_of_entry package hentry
        rw [declarationsIn_cons_of_speaks hspeaks hd] at htaken
        obtain ⟨hname, hrest⟩ := List.forall_mem_cons.mp htaken
        simp only [hnumber, hname] at h ⊢
        split_ifs at h with hmem
        · cases h
          exact ⟨_, if_pos hmem, .repeated _ number⟩
        · simp only [if_neg hmem]
          cases hparse : Instruction.parse ⟨package, name⟩ text with
          | error defect =>
            rw [hparse] at h
            cases h
            exact ⟨_, rfl, .unnumbered (Instruction.not_isNumbered_of_parse hparse)⟩
          | ok i =>
            rw [hparse] at h
            -- the name of this line is taken for both from now on
            have hmore : ∀ d ∈ declarationsIn package rest,
                d.id.name ∈ name :: taken' ↔ d.id.name ∈ name :: taken := fun d hd' => by
              rw [List.mem_cons, List.mem_cons, hrest d hd']
            cases hlines : parseLines package (name :: taken) (number + 1) rest with
            | ok is =>
              simp only [hlines] at h
              cases h
            | error rejection' =>
              simp only [hlines] at h
              cases h
              obtain ⟨lower, hlower, hlowered⟩ := ih hmore hlines
              exact ⟨lower, by simp only [hlower, Except.map], hlowered⟩

/-! ## Silent lines and ends of lines -/

/-- What lines say that say something, without the blanks around it. -/
def spoken (lines : List (List Char)) : List (List Char) :=
  (lines.filter (Speaks ·)).map Text.trim

theorem spoken_append (xs ys : List (List Char)) : spoken (xs ++ ys) = spoken xs ++ spoken ys := by
  rw [spoken, List.filter_append, List.map_append]
  rfl

theorem spoken_of_not_speaks (h : ¬ Speaks line) : spoken [line] = [] := by
  rw [spoken, List.filter_cons_of_neg (by simpa using h)]
  rfl

theorem spoken_of_trim_eq {line' : List Char} (h : Text.trim line' = Text.trim line) :
    spoken [line'] = spoken [line] := by
  have hspeaks : Speaks line' ↔ Speaks line := by
    unfold Speaks
    rw [h]
  by_cases hline : Speaks line
  · simp [spoken, hline, hspeaks, h]
  · rw [spoken_of_not_speaks hline, spoken_of_not_speaks (hspeaks.not.mpr hline)]

/-- **The instructions of lines hang on what these say alone.** -/
theorem parseLines_eq_ok_iff_of_spoken {lines' : List (List Char)} {number' : Nat}
    {is : List Instruction} (h : spoken lines' = spoken lines) :
    parseLines package taken number' lines' = .ok is ↔
      parseLines package taken number lines = .ok is := by
  have hcolon : ∀ ls : List (List Char),
      (∀ line ∈ ls, Speaks line → ':' ∈ line) ↔ ∀ said ∈ spoken ls, ':' ∈ said := by
    intro ls
    have hmem : ∀ line : List Char, ':' ∈ Text.trim line ↔ ':' ∈ line := fun line =>
      Text.mem_trim_iff (by decide)
    simp only [spoken, List.forall_mem_map, List.mem_filter, decide_eq_true_eq, and_imp, hmem]
  have hdeclared : declarationsIn package lines' = declarationsIn package lines := by
    -- a line declares what it says
    have hsaid : ∀ ls, declarationsIn package ls = (spoken ls).filterMap fun said =>
        (Text.cutAt ':' said).map fun p =>
          ⟨⟨package, String.ofList (Text.trim p.1)⟩, String.ofList p.2⟩ := by
      intro ls
      rw [spoken, List.filterMap_map]
      rfl
    rw [hsaid, hsaid, h]
  have hlegible : Legible package taken lines' ↔ Legible package taken lines := by
    constructor
    · rintro ⟨hlines, hname, hfresh⟩
      rw [hdeclared] at hname hfresh
      exact ⟨(hcolon _).mpr (h ▸ (hcolon _).mp hlines), hname, hfresh⟩
    · rintro ⟨hlines, hname, hfresh⟩
      rw [← hdeclared] at hname hfresh
      exact ⟨(hcolon _).mpr (h.symm ▸ (hcolon _).mp hlines), hname, hfresh⟩
  rw [parseLines_eq_ok_iff, parseLines_eq_ok_iff, hlegible, hdeclared]

theorem parse_eq_ok_iff_of_spoken {text text' : String} {is : List Instruction}
    (h : spoken (Text.lines text'.toList) = spoken (Text.lines text.toList)) :
    parse package text' = .ok is ↔ parse package text = .ok is :=
  parseLines_eq_ok_iff_of_spoken h

/-- The second lines are the first, some of them ended by a carriage return, and lines that say
nothing among them. -/
inductive Dressed : List (List Char) → List (List Char) → Prop
  | nil : Dressed [] []
  | line (l : List Char) {ls ls' : List (List Char)} (h : Dressed ls ls') :
      Dressed (l :: ls) (l :: ls')
  | ended (l : List Char) {ls ls' : List (List Char)} (h : Dressed ls ls') :
      Dressed (l :: ls) ((l ++ ['\r']) :: ls')
  | silent {l : List Char} (hl : ¬ Speaks l) {ls ls' : List (List Char)} (h : Dressed ls ls') :
      Dressed ls (l :: ls')

theorem trim_ended (l : List Char) : Text.trim (l ++ ['\r']) = Text.trim l :=
  Text.trim_append_blanks (List.forall_mem_singleton.mpr (by decide)) l

theorem Dressed.spoken_eq {ls ls' : List (List Char)} (h : Dressed ls ls') :
    spoken ls' = spoken ls := by
  induction h with
  | nil => rfl
  | @line l ls ls' _ ih =>
    rw [← List.singleton_append, spoken_append, ih, ← spoken_append, List.singleton_append]
  | @ended l ls ls' _ ih =>
    rw [← List.singleton_append, spoken_append, ih, spoken_of_trim_eq (trim_ended l),
      ← spoken_append, List.singleton_append]
  | @silent l hl ls ls' _ ih =>
    rw [← List.singleton_append, spoken_append, ih, spoken_of_not_speaks hl, List.nil_append]

/-- The text with a carriage return in front of every line feed. -/
def withReturns (text : List Char) : List Char :=
  text.flatMap fun c => if c = '\n' then ['\r', '\n'] else [c]

theorem lines_withReturns (text : List Char) :
    List.Forall₂ (fun l l' => l' = l ∨ l' = l ++ ['\r']) (Text.lines text)
      (Text.lines (withReturns text)) := by
  induction text with
  | nil => exact .cons (.inl rfl) .nil
  | cons c rest ih =>
    rw [withReturns, List.flatMap_cons]
    by_cases hc : c = '\n'
    · subst hc
      exact .cons (.inr rfl) ih
    · rw [if_neg hc, List.singleton_append, Text.lines_cons_of_ne hc, Text.lines_cons_of_ne hc]
      change List.Forall₂ _ (Text.extendLine c (Text.lines rest))
        (Text.extendLine c (Text.lines (withReturns rest)))
      obtain ⟨l, ls, hrest⟩ := List.exists_cons_of_ne_nil (Text.lines_ne_nil rest)
      rw [hrest] at ih ⊢
      obtain ⟨l', ls', hl, hls, hreturns⟩ := List.forall₂_cons_left_iff.mp ih
      rw [hreturns]
      refine .cons ?_ hls
      rcases hl with rfl | rfl
      · exact .inl rfl
      · exact .inr rfl

theorem dressed_of_forall₂ {ls ls' : List (List Char)}
    (h : List.Forall₂ (fun l l' => l' = l ∨ l' = l ++ ['\r']) ls ls') : Dressed ls ls' := by
  induction h with
  | nil => exact .nil
  | cons hl _ ih =>
    rcases hl with rfl | rfl
    · exact .line _ ih
    · exact .ended _ ih

theorem spoken_lines_append_feeds (text : List Char) (n : Nat) :
    spoken (Text.lines (text ++ List.replicate n '\n')) = spoken (Text.lines text) := by
  induction n with
  | zero => rw [List.replicate_zero, List.append_nil]
  | succ n ih =>
    have hlast : text ++ List.replicate (n + 1) '\n' =
        (text ++ List.replicate n '\n') ++ '\n' :: [] := by
      rw [List.replicate_succ', List.append_assoc]
    have hsilent : ¬ Speaks [] := by decide
    rw [hlast, Text.lines_append_feed, spoken_append, ih, Text.lines_nil,
      spoken_of_not_speaks hsilent, List.append_nil]

/-! ## Two suites -/

/-- No name is declared in both suites. -/
def Apart (package : Option String) (a b : String) : Prop :=
  ∀ d ∈ declarations package a, ∀ e ∈ declarations package b, d.id.name ≠ e.id.name

theorem apart_iff {a b : String} :
    Apart package a b ↔ ∀ e ∈ declarations package b,
      e.id.name ∉ takenBy package (Text.lines a.toList) := by
  simp only [mem_takenBy_iff, not_exists, not_and]
  exact ⟨fun h e he d hd => h d hd e he, fun h d hd e he => h e he d hd⟩

theorem parse_joined_eq (package : Option String) (a b : String) :
    parse package (a ++ "\n" ++ b) =
      match parse package a with
      | .error rejection => .error rejection
      | .ok is => (parseLines package (takenBy package (Text.lines a.toList))
          (1 + (a.toList.count '\n' + 1)) (Text.lines b.toList)).map (is ++ ·) := by
  have hlines : Text.lines (a ++ "\n" ++ b).toList = Text.lines a.toList ++ Text.lines b.toList := by
    rw [← Text.lines_append_feed]
    simp
  have hnumber : (Text.lines a.toList).length + 1 = 1 + (a.toList.count '\n' + 1) := by
    rw [Text.length_lines, Nat.add_comm]
  rw [parse, hlines, ← hnumber]
  exact parseLines_append package [] (Text.lines a.toList) (Text.lines b.toList)

theorem parse_joined_eq_ok_iff {a b : String} {is : List Instruction} :
    parse package (a ++ "\n" ++ b) = .ok is ↔
      ∃ is₁ is₂, parse package a = .ok is₁ ∧ parse package b = .ok is₂ ∧ Apart package a b ∧
        is = is₁ ++ is₂ := by
  rw [parse_joined_eq]
  constructor
  · intro h
    cases ha : parse package a with
    | error rejection =>
      rw [ha] at h
      cases h
    | ok is₁ =>
      rw [ha] at h
      cases hbelow : parseLines package (takenBy package (Text.lines a.toList))
          (1 + (a.toList.count '\n' + 1)) (Text.lines b.toList) with
      | error rejection =>
        simp only [hbelow] at h
        cases h
      | ok is₂ =>
        simp only [hbelow] at h
        cases h
        obtain ⟨hb, hfree⟩ := parseLines_eq_ok_iff_of_taken.mp hbelow
        exact ⟨is₁, is₂, rfl, hb, apart_iff.mpr hfree, rfl⟩
  · rintro ⟨is₁, is₂, ha, hb, hapart, rfl⟩
    have hbelow : parseLines package (takenBy package (Text.lines a.toList))
        (1 + (a.toList.count '\n' + 1)) (Text.lines b.toList) = .ok is₂ :=
      parseLines_eq_ok_iff_of_taken.mpr ⟨hb, apart_iff.mp hapart⟩
    rw [ha]
    simp only [hbelow]
    rfl

theorem parse_joined_of_error {a b : String} {is : List Instruction} {rejection : Rejection}
    (ha : parse package a = .ok is) (hb : parse package b = .error rejection)
    (hapart : Apart package a b) :
    ∃ rejection', parse package (a ++ "\n" ++ b) = .error rejection' ∧
      Lowered package (a.toList.count '\n' + 1) rejection rejection' := by
  have htaken : ∀ e ∈ declarationsIn package (Text.lines b.toList),
      e.id.name ∈ takenBy package (Text.lines a.toList) ↔ e.id.name ∈ [] := fun e he =>
    iff_of_false (apart_iff.mp hapart e he) List.not_mem_nil
  obtain ⟨lower, hlower, hlowered⟩ := lowered_of_parseLines htaken hb
  refine ⟨lower, ?_, hlowered⟩
  rw [parse_joined_eq, ha]
  simp only [hlower]
  rfl

/-- **Suites are read line by line, and so are suites below one another.** The first error is kept,
and one of the second suite moves down by the lines of the first. Blank lines, comments and carriage
returns at the ends of lines change nothing. -/
theorem parse_joined (package : Option String) (a b : String) :
    (∀ is, parse package (a ++ "\n" ++ b) = .ok is ↔
        ∃ is₁ is₂, parse package a = .ok is₁ ∧ parse package b = .ok is₂ ∧ Apart package a b ∧
          is = is₁ ++ is₂) ∧
      (∀ rejection, parse package a = .error rejection →
        parse package (a ++ "\n" ++ b) = .error rejection) ∧
      (∀ is rejection, parse package a = .ok is → parse package b = .error rejection →
        Apart package a b → ∃ rejection', parse package (a ++ "\n" ++ b) = .error rejection' ∧
          Lowered package (a.toList.count '\n' + 1) rejection rejection') ∧
      (∀ text is, Dressed (Text.lines a.toList) (Text.lines text.toList) →
        (parse package text = .ok is ↔ parse package a = .ok is)) ∧
      (∀ n is, parse package (a ++ String.ofList (List.replicate n '\n')) = .ok is ↔
        parse package a = .ok is) ∧
      ∀ is, parse package (String.ofList (withReturns a.toList)) = .ok is ↔
        parse package a = .ok is := by
  refine ⟨fun is => parse_joined_eq_ok_iff, fun rejection ha => ?_,
    fun is rejection => parse_joined_of_error, ?_, ?_, ?_⟩
  · rw [parse_joined_eq, ha]
  · intro text is hdressed
    exact parse_eq_ok_iff_of_spoken hdressed.spoken_eq
  · intro n is
    refine parse_eq_ok_iff_of_spoken ?_
    rw [String.toList_append, String.toList_ofList, spoken_lines_append_feeds]
  · intro is
    refine parse_eq_ok_iff_of_spoken ?_
    rw [String.toList_ofList]
    exact (dressed_of_forall₂ (lines_withReturns a.toList)).spoken_eq

end Suite

end QuestCheck
