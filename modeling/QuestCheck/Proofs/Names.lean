import Mathlib.Tactic.ByContra
import Mathlib.Tactic.SplitIfs
import QuestCheck.World.Conditions

/-!
# Names of conditions

The name of a condition is read from a text and written as one. Reading takes exactly the written
forms of well-formed names, with any blanks around them, so that a written form stands for one name,
and tables, which go by written forms, keep the entries of different names apart.

* `Text.IsWord`: what a name and a package are made of; `Text.isName_iff_isWord`;
* `mark_not_mem`, `split_display`, `trim_display`: a written form is cut at its own mark and has no
  blanks;
* `parse_eq_ok_iff`: a text is read as the name whose written form it is;
* `Conditions.DependsOn`: what tables say of a name hangs on an entry; `dependsOn_iff`;
* **`parse_inverts_display`**: reading undoes writing, and different names have different entries.
-/

namespace QuestCheck

/-- A non-empty text of the letters and digits of ASCII, `_`, `.` and `-`. -/
def Text.IsWord (s : String) : Prop :=
  s ≠ "" ∧ ∀ c ∈ s.toList,
    ('A' ≤ c ∧ c ≤ 'Z') ∨ ('a' ≤ c ∧ c ≤ 'z') ∨ ('0' ≤ c ∧ c ≤ '9') ∨ c = '_' ∨ c = '.' ∨ c = '-'

theorem Text.isName_iff_isWord {s : String} : isName s = true ↔ IsWord s := by
  have hempty : s.toList ≠ [] ↔ s ≠ "" := not_congr String.toList_eq_nil_iff
  rw [isName_iff, hempty, IsWord]
  simp only [isNameChar_iff]

namespace QualifiedName

/-! ## Written forms -/

theorem mem_display {q : QualifiedName} (h : q.Valid) {c : Char} (hc : c ∈ q.display.toList) :
    Text.isNameChar c = true ∨ c = '>' := by
  obtain ⟨package, name⟩ := q
  have hname := (Text.isName_iff.mp h.1).2
  cases package with
  | none => exact .inl (hname c hc)
  | some package =>
    have hpackage := (Text.isName_iff.mp (h.2 package rfl)).2
    have hmark : ">".toList = ['>'] := rfl
    rw [display_mk_some, String.toList_append, String.toList_append, hmark, List.append_assoc,
      List.mem_append, List.singleton_append, List.mem_cons] at hc
    rcases hc with hc | hc | hc
    · exact .inl (hpackage c hc)
    · exact .inr hc
    · exact .inl (hname c hc)

theorem mark_not_mem {word : String} (h : Text.isName word = true) : '>' ∉ word.toList := fun hmem =>
  absurd ((Text.isName_iff.mp h).2 '>' hmem) (by decide)

theorem trim_display {q : QualifiedName} (h : q.Valid) :
    Text.trim q.display.toList = q.display.toList := by
  have hplain : ∀ c ∈ q.display.toList, Text.isBlank c = false := by
    intro c hc
    rcases mem_display h hc with hchar | rfl
    · exact (Text.isNameChar_plain hchar).1
    · decide
  exact Text.trim_eq_self (fun c hc => hplain c (List.mem_of_head? hc))
    (fun c hc => hplain c (List.mem_of_getLast? hc))

/-- **A written form is cut at its own mark.** -/
theorem split_display {q : QualifiedName} (h : q.Valid) : split q.display.toList = q := by
  obtain ⟨package, name⟩ := q
  unfold split
  cases package with
  | none =>
    rw [display_mk_none, Text.cutAt_eq_none_iff.mpr (mark_not_mem h.1), String.ofList_toList]
  | some package =>
    have hcut : Text.cutAt '>' (display ⟨some package, name⟩).toList =
        some (package.toList, name.toList) := by
      rw [Text.cutAt_eq_some_iff]
      exact ⟨by simp [display], mark_not_mem (h.2 package rfl)⟩
    rw [hcut]
    simp only [String.ofList_toList]

/-- **Well-formed names are written differently.** -/
theorem display_injOn {q q' : QualifiedName} (h : q.Valid) (h' : q'.Valid)
    (hdisplay : q.display = q'.display) : q = q' := by
  rw [← split_display h, hdisplay, split_display h']

/-! ## Reading -/

theorem parse_eq_ok_iff_split {raw : String} {q : QualifiedName} :
    parse raw = .ok q ↔ split (Text.trim raw.toList) = q ∧ q.Valid := by
  unfold parse
  dsimp only
  generalize split (Text.trim raw.toList) = read
  cases hfilter : read.package.filter (!Text.isName ·) with
  | some package =>
    obtain ⟨hpackage, hbad⟩ := Option.filter_eq_some_iff.mp hfilter
    refine iff_of_false nofun ?_
    rintro ⟨rfl, -, hvalid⟩
    rw [hvalid package hpackage] at hbad
    cases hbad
  | none =>
    have hvalid : ∀ package, read.package = some package → Text.isName package = true := by
      simpa using Option.filter_eq_none_iff.mp hfilter
    constructor
    · intro h
      split_ifs at h with hname
      cases h
      exact ⟨rfl, hname, hvalid⟩
    · rintro ⟨rfl, hname, -⟩
      rw [if_pos hname]

/-- **A text is read as the name whose written form it is**, blanks around it aside. -/
theorem parse_eq_ok_iff {raw : String} {q : QualifiedName} :
    parse raw = .ok q ↔ Text.trimmed raw = q.display ∧ q.Valid := by
  rw [parse_eq_ok_iff_split]
  refine and_congr_left fun h => ⟨?_, fun hraw => ?_⟩
  · rintro rfl
    exact (display_split _).symm
  · rw [← Text.toList_trimmed, hraw, split_display h]

end QualifiedName

/-! ## Entries of names -/

namespace Conditions

/-- What tables say of a name hangs on the entry of a key: two of them that differ at most there say
different things. -/
def DependsOn (id : QualifiedName) (key : String) : Prop :=
  ∃ t t' : Conditions, (∀ other, other ≠ key → t'.entries[other]? = t.entries[other]?) ∧
    (t'.knows id ≠ t.knows id ∨ ∃ actor, t'.evaluate actor id ≠ t.evaluate actor id)

/-- **What a table says of a name hangs on the entry of its written form, and on no other.** -/
theorem dependsOn_iff {id : QualifiedName} {key : String} :
    DependsOn id key ↔ key = id.display := by
  constructor
  · rintro ⟨t, t', hsame, hdifferent⟩
    by_contra hkey
    have hentry : t'.entries[id.display]? = t.entries[id.display]? := hsame _ (Ne.symm hkey)
    rcases hdifferent with hknows | ⟨actor, hevaluate⟩
    · refine hknows ?_
      simp only [knows, Std.ExtTreeMap.contains_eq_isSome_getElem?, hentry]
    · refine hevaluate ?_
      simp only [evaluate, outcome, hentry]
  · rintro rfl
    refine ⟨empty, empty.setDefault id.display true, fun other hother => ?_, .inl ?_⟩
    · exact entries_setDefault_of_ne empty (Ne.symm hother) true
    · simp [knows, setDefault, empty]

end Conditions

namespace QualifiedName

/-- **Reading and writing the name of a condition undo each other**, and a table keeps names apart:
what it says of one hangs on the entry of its written form alone. -/
theorem parse_inverts_display :
    (∀ raw q, parse raw = .ok q ↔ Text.trimmed raw = q.display ∧ Text.IsWord q.name ∧
        ∀ package, q.package = some package → Text.IsWord package) ∧
      (∀ raw q, parse raw = .ok q → parse q.display = .ok q) ∧
      (∀ q key, Conditions.DependsOn q key ↔ key = q.display) ∧
      ∀ raw raw' q q', parse raw = .ok q → parse raw' = .ok q' → q ≠ q' →
        q.display ≠ q'.display ∧
          ∀ key, ¬ (Conditions.DependsOn q key ∧ Conditions.DependsOn q' key) := by
  refine ⟨fun raw q => ?_, fun raw q h => ?_, fun _ _ => Conditions.dependsOn_iff, ?_⟩
  · simp only [parse_eq_ok_iff, Valid, Text.isName_iff_isWord]
  · obtain ⟨-, hvalid⟩ := parse_eq_ok_iff.mp h
    refine parse_eq_ok_iff.mpr ⟨?_, hvalid⟩
    rw [Text.trimmed, trim_display hvalid, String.ofList_toList]
  · intro raw raw' q q' h h' hne
    have hdisplay : q.display ≠ q'.display := fun heq =>
      hne (display_injOn (parse_eq_ok_iff.mp h).2 (parse_eq_ok_iff.mp h').2 heq)
    refine ⟨hdisplay, fun key => ?_⟩
    rintro ⟨hkey, hkey'⟩
    exact hdisplay ((Conditions.dependsOn_iff.mp hkey).symm.trans (Conditions.dependsOn_iff.mp hkey'))

/-- A packaged name with blanks around it, and a name that is written alike but for its mark. -/
theorem parse_inverts_display_town :
    let q : QualifiedName := ⟨some "town", "has-gold.v2"⟩
    let q' : QualifiedName := ⟨none, "town.has-gold.v2"⟩
    parse "\u2003town>has-gold.v2\n" = .ok q ∧ parse "town.has-gold.v2" = .ok q' ∧ q ≠ q' ∧
      parse q.display = .ok q ∧ q.display ≠ q'.display ∧
      ∀ key, ¬ (Conditions.DependsOn q key ∧ Conditions.DependsOn q' key) := by
  intro q q'
  have h : parse "\u2003town>has-gold.v2\n" = .ok q := rfl
  have h' : parse "town.has-gold.v2" = .ok q' := rfl
  have hne : q ≠ q' := by decide
  obtain ⟨-, hback, -, hapart⟩ := parse_inverts_display
  exact ⟨h, h', hne, hback _ q h, hapart _ _ q q' h h' hne⟩

/-- A second mark belongs to no part. -/
example : parse "a>b>c" = .error (.badName "a>b>c") := rfl

end QualifiedName

end QuestCheck
