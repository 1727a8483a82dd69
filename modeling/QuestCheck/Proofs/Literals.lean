import QuestCheck.Proofs.Meaning

/-!
# Literals and references

A text that refers to a variable is a name between two percent signs, and no field has a value that
is written so: there is no percent sign in a truth value or in the name of a condition, and in a
message one of the two would stand alone. So a text that says a value is never taken for a
reference.

* `toList_of_reference`, `trim_of_reference`: a reference starts and ends with a percent sign;
* `Truth.parse_of_reference`, `QualifiedName.parse_of_reference`, `Template.parse_of_reference`: how
  a reference is misread;
* `FieldReading`: the readings of fields, none of which has a value for a reference
  (`FieldReading.error_of_reference`);
* **`Instruction.literal_is_fixed`**: what can be read is fixed, and nothing is asked.
-/

namespace QuestCheck

variable {text name : String}

/-! ## The text of a reference -/

theorem toList_of_reference (h : reference? text = some name) :
    text.toList = '%' :: (name.toList ++ ['%']) := by
  obtain ⟨rfl, -⟩ := reference?_eq_some_iff.mp h
  rw [String.toList_append, String.toList_append]
  rfl

theorem trim_of_reference (h : reference? text = some name) :
    Text.trim text.toList = text.toList := by
  have hpercent : Text.isBlank '%' = false := by decide
  rw [toList_of_reference h]
  apply Text.trim_eq_self
  · rintro c ⟨⟩
    exact hpercent
  · intro c hc
    rw [← List.cons_append, List.getLast?_concat] at hc
    cases hc
    exact hpercent

theorem trimmed_of_reference (h : reference? text = some name) : Text.trimmed text = text := by
  rw [Text.trimmed, trim_of_reference h, String.ofList_toList]

theorem ne_percent_of_isNameChar {c : Char} (h : Text.isNameChar c = true) : c ≠ '%' := by
  rintro rfl
  exact absurd h (by decide)

theorem exists_toList_of_reference (h : reference? text = some name) :
    ∃ c cs, name.toList = c :: cs ∧ c ≠ '%' ∧ ∀ d ∈ cs, d ≠ '%' := by
  obtain ⟨hne, hchars⟩ := Text.isName_iff.mp (reference?_eq_some_iff.mp h).2
  obtain ⟨c, cs, hname⟩ := List.exists_cons_of_ne_nil hne
  rw [hname] at hchars
  obtain ⟨hc, hcs⟩ := List.forall_mem_cons.mp hchars
  exact ⟨c, cs, hname, ne_percent_of_isNameChar hc, fun d hd => ne_percent_of_isNameChar (hcs d hd)⟩

/-! ## References misread -/

theorem Truth.parse_of_reference (h : reference? text = some name) :
    parse text = .error (.notTruth text) := by
  have hfirst : text.toList.head? = some '%' := by rw [toList_of_reference h, List.head?_cons]
  have htrue : text ≠ Truth.text true := ne_of_head? hfirst (by decide)
  have hfalse : text ≠ Truth.text false := ne_of_head? hfirst (by decide)
  unfold parse
  rw [trimmed_of_reference h]
  dsimp only
  rw [if_neg htrue, if_neg hfalse]

/-- There is no `>` in a reference, and what stands before the end is no name for its percent
sign. -/
theorem QualifiedName.parse_of_reference (h : reference? text = some name) :
    parse text = .error (.badName text) := by
  have hmark : '>' ∉ text.toList := by
    obtain ⟨-, hchars⟩ := Text.isName_iff.mp (reference?_eq_some_iff.mp h).2
    rw [toList_of_reference h, List.mem_cons, List.mem_append, List.mem_singleton]
    rintro (hfirst | hname | hlast)
    · exact absurd hfirst (by decide)
    · exact absurd (hchars '>' hname) (by decide)
    · exact absurd hlast (by decide)
  have hsplit : split text.toList = ⟨none, text⟩ := by
    rw [split, Text.cutAt_eq_none_iff.mpr hmark, String.ofList_toList]
  have hname : Text.isName text = false := by
    rw [Bool.eq_false_iff, ne_eq, Text.isName_iff]
    rintro ⟨-, hchars⟩
    rw [toList_of_reference h] at hchars
    exact ne_percent_of_isNameChar (hchars '%' List.mem_cons_self) rfl
  unfold parse
  rw [trim_of_reference h]
  dsimp only
  rw [hsplit]
  simp [hname]

theorem Template.scan_concat_mark {cs : List Char} (h : ∀ c ∈ cs, c ≠ '%') :
    scan (cs ++ ['%']) = .error .danglingMark := by
  induction cs with
  | nil => rfl
  | cons c cs ih =>
    obtain ⟨hc, hcs⟩ := List.forall_mem_cons.mp h
    have hwritten : (c :: cs) ++ ['%'] = writePart (.char c) ++ (cs ++ ['%']) := by
      simp [writePart, hc]
    rw [hwritten, scan_append_writePart, ih hcs]
    rfl

/-- If the name starts with `s`, the first percent sign makes a hole and the second stands alone at
the end; else the first stands before a character that means nothing. -/
theorem Template.scan_of_reference (h : reference? text = some name) :
    scan text.toList = .error
      (if name.toList.head? = some 's' then .danglingMark
        else .unknownMark (name.toList.headD '%')) := by
  obtain ⟨c, cs, hname, hc, hcs⟩ := exists_toList_of_reference h
  rw [toList_of_reference h, hname]
  by_cases hs : c = 's'
  · subst hs
    show scan (writePart .hole ++ (cs ++ ['%'])) = _
    rw [scan_append_writePart, scan_concat_mark hcs]
    rfl
  · rw [if_neg (by simpa using hs)]
    simp [scan]

theorem Template.parse_of_reference (h : reference? text = some name) (arity : Nat) :
    parse arity text = .error
      (if name.toList.head? = some 's' then .danglingMark text
        else .unknownMark (name.toList.headD '%') text) := by
  unfold parse
  rw [scan_of_reference h]
  split_ifs <;> rfl

/-! ## Readings of fields -/

/-- The readings of the fields of a check: as a truth value, as the name of a condition, and as a
message for a number of values. -/
inductive FieldReading : {α : Type} → Reading α → Prop
  | truth : FieldReading Truth.parse
  | condition : FieldReading QualifiedName.parse
  | message (arity : Nat) : FieldReading (Template.parse arity)

namespace FieldReading

variable {α : Type} {read : Reading α} {value : α}

/-- **No field has a value that is written as a reference.** -/
theorem error_of_reference (hread : FieldReading read) (h : reference? text = some name) :
    ∃ cause, read text = .error cause := by
  cases hread with
  | truth => exact ⟨_, Truth.parse_of_reference h⟩
  | condition => exact ⟨_, QualifiedName.parse_of_reference h⟩
  | message arity => exact ⟨_, Template.parse_of_reference h arity⟩

theorem reference?_eq_none (hread : FieldReading read) (h : read text = .ok value) :
    reference? text = none := by
  cases href : reference? text with
  | none => rfl
  | some name =>
    obtain ⟨cause, hcause⟩ := hread.error_of_reference href
    cases h.symm.trans hcause

end FieldReading

/-! ## Literals -/

/-- **References take no literal away**: no reference is a value of a field, and every text that is
one is fixed to it without asking anybody. -/
theorem Instruction.literal_is_fixed :
    (∀ name : String, Text.isName name = true →
      let text := "%" ++ name ++ "%"
      reference? text = some name ∧
        Truth.parse text = .error (.notTruth text) ∧
        QualifiedName.parse text = .error (.badName text) ∧
        ∀ arity, Template.parse arity text = .error
          (if name.toList.head? = some 's' then .danglingMark text
            else .unknownMark (name.toList.headD '%') text)) ∧
    ∀ (α : Type) (read : Reading α) (text : String) (value : α), FieldReading read →
      read text = .ok value → ∀ i : Instruction,
        (∀ field, i.parameter field read text = .done (.fixed value)) ∧
        (∀ index field, i.positional? index = some text →
          i.positionalParameter index field read = .done (.fixed value)) ∧
        (∀ key missing, i.named? key = some text →
          i.namedParameter key missing read = .done (.fixed value)) ∧
        ∀ key bare absent, i.named? key = some text →
          i.flagParameter key bare absent read = .done ⟨some (.fixed value), absent⟩ := by
  refine ⟨?_, ?_⟩
  · intro name hname text
    have href : reference? text = some name := reference?_eq_some_iff.mpr ⟨rfl, hname⟩
    exact ⟨href, Truth.parse_of_reference href, QualifiedName.parse_of_reference href,
      Template.parse_of_reference href⟩
  · intro α read text value hread hvalue i
    have hfixed : ∀ field, i.parameter field read text = .done (.fixed value) := fun field =>
      i.parameter_of_reading field (hread.reference?_eq_none hvalue) hvalue
    refine ⟨hfixed, ?_, ?_, ?_⟩
    · intro index field hfield
      rw [positionalParameter, hfield]
      exact hfixed field
    · intro key missing hfield
      rw [namedParameter, hfield]
      exact hfixed key
    · intro key bare absent hfield
      rw [flagParameter, flag, hfield]
      dsimp only
      rw [hfixed key]
      rfl

/-- A message between percent signs is no reference, and a reference is no message. -/
theorem Instruction.literal_is_fixed_percents :
    let i : Instruction := ⟨⟨none, "t1"⟩, "test hasGold success:%%s%%", "test", ["hasGold"],
      Dict.ofPairs [("success", "%%s%%")]⟩
    Template.parse 2 ("%" ++ "s" ++ "%") = .error (.danglingMark ("%" ++ "s" ++ "%")) ∧
      i.namedParameter "success" Check.successByDefault (Template.parse 2) =
        .done (.fixed ⟨[.char '%', .char 's', .char '%']⟩) := by
  intro i
  have hwritten : i.named? "success" = some "%%s%%" := by rfl
  have hread : Template.parse 2 "%%s%%" = .ok ⟨[.char '%', .char 's', .char '%']⟩ := by rfl
  obtain ⟨hreference, hliteral⟩ := literal_is_fixed
  obtain ⟨-, -, -, hmessage⟩ := hreference "s" rfl
  obtain ⟨-, -, hnamed, -⟩ := hliteral Template _ _ _ (.message 2) hread i
  exact ⟨hmessage 2, hnamed _ _ hwritten⟩

end QuestCheck
