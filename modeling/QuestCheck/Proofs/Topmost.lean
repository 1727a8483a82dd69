import QuestCheck.Proofs.Lines
import QuestCheck.Proofs.Requirements

/-!
# The topmost fault of a suite

A suite is read whole before its first check is compiled. So a line that cannot be read is reported
even if a line above it says no check, and only where all lines can be read is the fault that of the
topmost line with a fault.

* `Suite.readLine`, what a line says below other lines; `unread`, `uncompiled` and `unloaded`: why
  it cannot be read, compiled, or either;
* `topmost`: the fault of the first line that has one;
* `topmost_unread`, `topmost_uncompiled`, `fault?_load`: what loading reports;
* `unloaded_eq_fault?_load`: the fault of one line, as loading the lines up to it reports it;
* `unread_ne_uncompiled`: a line that cannot be read has another fault than any line above it;
* **`load_reports_topmost_iff`**: where loading reports the topmost fault.
-/

namespace QuestCheck

open Procedure Surroundings

/-- The fault, if there is one. -/
def fault? {ε α : Type} : Except ε α → Option ε
  | .ok _ => none
  | .error e => some e

namespace Suite

variable {s : Surroundings} {package : Option String} {above below : List (List Char)}
  {line : List Char}

/-! ## Lines below other lines -/

/-- The names that some lines take, the last one first. -/
def takenBy (package : Option String) (above : List (List Char)) : List String :=
  ((declarationsIn package above).map (·.id.name)).reverse

/-- What a line says below other lines: an instruction, or nothing, or why it cannot be read. -/
def readLine (package : Option String) (above : List (List Char)) (line : List Char) :
    Except Rejection (Option Instruction) :=
  match entry line with
  | .error defect => .error ⟨s!"{origin package}:{above.length + 1}", defect⟩
  | .ok none => .ok none
  | .ok (some (name, text)) =>
    let id : QualifiedName := ⟨package, name⟩
    if name ∈ takenBy package above then .error ⟨id.display, .repeatedLineName (above.length + 1)⟩
    else (Instruction.parse id text).map some

/-- Why a line cannot be read below other lines: it is no line of a suite, its name is taken, or
what it says is no instruction. -/
def unread (package : Option String) (above : List (List Char)) (line : List Char) : Option Fault :=
  (fault? (readLine package above line)).map Rejection.fault

/-- Why the instruction of a line is no check. -/
def uncompiled (s : Surroundings) (package : Option String) (above : List (List Char))
    (line : List Char) : Option Fault :=
  match readLine package above line with
  | .ok (some i) => fault? (s.result (Check.build i))
  | .ok none | .error _ => none

/-- Why a line cannot be loaded below other lines. -/
def unloaded (s : Surroundings) (package : Option String) (above : List (List Char))
    (line : List Char) : Option Fault :=
  (unread package above line).or (uncompiled s package above line)

/-- The fault of the topmost line that has one below the lines above it. -/
def topmost (f : List (List Char) → List Char → Option Fault) (above : List (List Char)) :
    List (List Char) → Option Fault
  | [] => none
  | line :: below => (f above line).or (topmost f (above ++ [line]) below)

/-! ## The topmost line with a fault -/

section Topmost

variable {f g : List (List Char) → List Char → Option Fault}

theorem topmost_append (xs ys : List (List Char)) :
    topmost f above (xs ++ ys) = (topmost f above xs).or (topmost f (above ++ xs) ys) := by
  induction xs generalizing above with
  | nil => simp [topmost]
  | cons x xs ih =>
    rw [List.cons_append, topmost, topmost, ih, Option.or_assoc, List.append_assoc,
      List.singleton_append]

/-- **The topmost line with a fault** stands below lines without. -/
theorem topmost_eq_some_iff {lines : List (List Char)} {fault : Fault} :
    topmost f [] lines = some fault ↔
      ∃ above line below, lines = above ++ line :: below ∧ topmost f [] above = none ∧
        f above line = some fault := by
  constructor
  · intro h
    induction lines using List.reverseRecOn with
    | nil => cases h
    | append_singleton lines last ih =>
      rw [topmost_append] at h
      cases hlines : topmost f [] lines with
      | some found =>
        rw [hlines] at h
        obtain ⟨above, line, below, rfl, habove, hline⟩ := ih (hlines.trans h)
        exact ⟨above, line, below ++ [last], by simp, habove, hline⟩
      | none =>
        rw [hlines] at h
        exact ⟨lines, last, [], rfl, hlines, by simpa [topmost] using h⟩
  · rintro ⟨above, line, below, rfl, habove, hline⟩
    rw [topmost_append, habove, Option.none_or, List.nil_append, topmost, hline, Option.some_or]

theorem topmost_or_of_eq_none {lines : List (List Char)} (h : topmost f above lines = none) :
    topmost (fun above line => (f above line).or (g above line)) above lines =
      topmost g above lines := by
  induction lines generalizing above with
  | nil => rfl
  | cons line below ih =>
    obtain ⟨hline, hbelow⟩ := Option.or_eq_none_iff.mp h
    rw [topmost, topmost, hline, Option.none_or, ih hbelow]

theorem topmost_or_eq_none_iff {lines : List (List Char)} :
    topmost (fun above line => (f above line).or (g above line)) above lines = none ↔
      topmost f above lines = none ∧ topmost g above lines = none := by
  induction lines generalizing above with
  | nil => simp [topmost]
  | cons line below ih =>
    simp only [topmost, Option.or_eq_none_iff, ih]
    exact and_and_and_comm

end Topmost

/-! ## Reading -/

theorem not_speaks_of_entry (h : entry line = .ok none) : ¬ Speaks line := by
  intro hspeaks
  rw [@entry_of_speaks none line hspeaks] at h
  split at h
  · cases h
  · split_ifs at h
    cases h

theorem declared_of_entry {name text : String} (package : Option String)
    (h : entry line = .ok (some (name, text))) :
    Speaks line ∧ Text.isName name = true ∧
      declaration? package line = some ⟨⟨package, name⟩, text⟩ := by
  have hspeaks : Speaks line := by
    by_contra hnot
    rw [entry_of_not_speaks hnot] at h
    cases h
  rw [@entry_of_speaks package line hspeaks] at h
  cases hd : declaration? package line with
  | none =>
    rw [hd] at h
    cases h
  | some d =>
    obtain ⟨p, -, rfl⟩ := Option.map_eq_some_iff.mp hd
    simp only [hd] at h
    split_ifs at h with hname
    cases h
    exact ⟨hspeaks, hname, rfl⟩

theorem takenBy_concat_of_silent (h : entry line = .ok none) :
    takenBy package (above ++ [line]) = takenBy package above := by
  unfold takenBy declarationsIn
  rw [List.filter_append, List.filter_cons_of_neg (by simpa using not_speaks_of_entry h),
    List.filter_nil, List.append_nil]

theorem takenBy_concat {name text : String} (h : entry line = .ok (some (name, text))) :
    takenBy package (above ++ [line]) = name :: takenBy package above := by
  obtain ⟨hspeaks, -, hd⟩ := declared_of_entry package h
  unfold takenBy
  have hdeclared : declarationsIn package (above ++ [line]) =
      declarationsIn package above ++ [⟨⟨package, name⟩, text⟩] := by
    simp [declarationsIn, hspeaks, hd]
  rw [hdeclared, List.map_append, List.reverse_append]
  rfl

theorem parseLines_cons (package : Option String) (above : List (List Char)) (line : List Char)
    (below : List (List Char)) :
    parseLines package (takenBy package above) (above.length + 1) (line :: below) =
      match readLine package above line with
      | .error rejection => .error rejection
      | .ok said =>
        (parseLines package (takenBy package (above ++ [line])) ((above ++ [line]).length + 1)
          below).map (said.toList ++ ·) := by
  have hlength : (above ++ [line]).length = above.length + 1 := by simp
  rw [parseLines, readLine, hlength]
  cases hentry : entry line with
  | error defect => rfl
  | ok said =>
    cases said with
    | none =>
      rw [takenBy_concat_of_silent hentry]
      simp only
      cases parseLines package (takenBy package above) (above.length + 1 + 1) below <;> rfl
    | some declared =>
      obtain ⟨name, text⟩ := declared
      rw [takenBy_concat hentry]
      simp only
      split_ifs
      · rfl
      · cases Instruction.parse ⟨package, name⟩ text <;> rfl

theorem topmost_unread (package : Option String) (above lines : List (List Char)) :
    topmost (unread package) above lines =
      (fault? (parseLines package (takenBy package above) (above.length + 1) lines)).map
        Rejection.fault := by
  induction lines generalizing above with
  | nil => rfl
  | cons line below ih =>
    rw [parseLines_cons, topmost, ih, unread]
    cases readLine package above line with
    | error rejection => rfl
    | ok said =>
      cases parseLines package (takenBy package (above ++ [line])) ((above ++ [line]).length + 1)
        below <;> rfl

theorem fault?_mapM_cons {α β : Type} (f : α → Procedure β) (x : α) (xs : List α) :
    fault? (s.result ((x :: xs).mapM f)) =
      (fault? (s.result (f x))).or (fault? (s.result (xs.mapM f))) := by
  rw [List.mapM_cons]
  cases hx : s.result (f x) with
  | error fault =>
    rw [result_bind_of_error hx]
    rfl
  | ok y =>
    rw [result_bind_of_ok hx]
    cases hxs : s.result (xs.mapM f) with
    | error fault =>
      rw [result_bind_of_error hxs]
      rfl
    | ok ys =>
      rw [result_bind_of_ok hxs]
      rfl

theorem topmost_uncompiled {is : List Instruction} {lines : List (List Char)}
    (h : parseLines package (takenBy package above) (above.length + 1) lines = .ok is) :
    topmost (uncompiled s package) above lines = fault? (s.result (is.mapM Check.build)) := by
  induction lines generalizing above is with
  | nil =>
    cases h
    rfl
  | cons line below ih =>
    rw [parseLines_cons] at h
    rw [topmost, uncompiled]
    cases hline : readLine package above line with
    | error rejection =>
      rw [hline] at h
      cases h
    | ok said =>
      rw [hline] at h
      cases hbelow : parseLines package (takenBy package (above ++ [line]))
          ((above ++ [line]).length + 1) below with
      | error rejection =>
        simp only [hbelow] at h
        cases h
      | ok rest =>
        simp only [hbelow] at h
        cases h
        rw [ih hbelow]
        cases said with
        | none => rfl
        | some i =>
          exact (fault?_mapM_cons Check.build i rest).symm

/-- **What loading reports**: the topmost line that cannot be read, and only where there is none the
topmost line whose instruction is no check. -/
theorem fault?_load (s : Surroundings) (package : Option String) (text : String) :
    fault? (s.result (load package text)) =
      (topmost (unread package) [] (Text.lines text.toList)).or
        (topmost (uncompiled s package) [] (Text.lines text.toList)) := by
  have hparse : parse package text =
      parseLines package (takenBy package []) (([] : List (List Char)).length + 1)
        (Text.lines text.toList) := rfl
  rw [topmost_unread, ← hparse]
  unfold load
  cases h : parse package text with
  | error rejection => rfl
  | ok is => exact (topmost_uncompiled (hparse.symm.trans h)).symm

/-- **The fault of a line below lines without faults** is that of the suite of these lines. -/
theorem unloaded_eq_fault?_load {text : String}
    (hlines : Text.lines text.toList = above ++ [line])
    (habove : topmost (unloaded s package) [] above = none) :
    unloaded s package above line = fault? (s.result (load package text)) := by
  obtain ⟨hread, hcompiled⟩ := topmost_or_eq_none_iff.mp habove
  rw [fault?_load, hlines, topmost_append, topmost_append, hread, hcompiled]
  simp [topmost, unloaded]

/-! ## Different faults -/

theorem takenBy_append (package : Option String) (xs ys : List (List Char)) :
    takenBy package (xs ++ ys) = takenBy package ys ++ takenBy package xs := by
  simp [takenBy, declarationsIn]

theorem entry_of_readLine {i : Instruction} (h : readLine package above line = .ok (some i)) :
    ∃ name text, entry line = .ok (some (name, text)) ∧ i.id = ⟨package, name⟩ := by
  unfold readLine at h
  cases hentry : entry line with
  | error defect =>
    rw [hentry] at h
    cases h
  | ok said =>
    rw [hentry] at h
    cases said with
    | none => cases h
    | some declared =>
      obtain ⟨name, text⟩ := declared
      simp only at h
      split_ifs at h
      cases hparse : Instruction.parse ⟨package, name⟩ text with
      | error rejection =>
        rw [hparse] at h
        cases h
      | ok i' =>
        rw [hparse] at h
        cases h
        obtain ⟨-, -, -, -, -, -, rfl⟩ := Instruction.parse_eq_ok_iff.mp hparse
        exact ⟨name, text, rfl, rfl⟩

theorem subject_of_parse_eq_error {id : QualifiedName} {text : String} {rejection : Rejection}
    (h : Instruction.parse id text = .error rejection) : rejection.subject = id.display := by
  unfold Instruction.parse at h
  cases hread : Token.scan text.toList >>= Instruction.ofTokens id (Text.trimmed text) with
  | ok i =>
    rw [hread] at h
    cases h
  | error defect =>
    rw [hread] at h
    cases h
    rfl

theorem fault_of_uncompiled {fault : Fault} (h : uncompiled s package above line = some fault) :
    ∃ (name text : String) (defect : Defect), entry line = .ok (some (name, text)) ∧
      Text.isName name = true ∧ defect.IsOfCheck ∧
      fault = .malformed (QualifiedName.display ⟨package, name⟩) defect.message := by
  unfold uncompiled at h
  split at h
  · next i hline =>
    obtain ⟨name, text, hentry, hid⟩ := entry_of_readLine hline
    cases hbuild : s.result (Check.build i) with
    | ok c =>
      rw [hbuild] at h
      cases h
    | error fault' =>
      rw [hbuild] at h
      cases h
      obtain ⟨defect, hdefect, rfl⟩ :=
        Check.result_compile_eq_error_iff.mp (Check.result_build_eq_error_iff.mp hbuild)
      obtain ⟨r, -, hr⟩ := List.exists_of_findSome?_eq_some hdefect
      exact ⟨name, text, defect, hentry, (declared_of_entry package hentry).2.1,
        r.isOfCheck_of_defect? hr, by rw [Instruction.fault, hid]; rfl⟩
  · cases h
  · cases h

theorem display_left_injective {name name' : String}
    (h : QualifiedName.display ⟨package, name⟩ = QualifiedName.display ⟨package, name'⟩) :
    name = name' := by
  cases package with
  | none => exact h
  | some package =>
    rw [QualifiedName.display_mk_some, QualifiedName.display_mk_some] at h
    exact (String.append_right_inj _).mp h

theorem display_ne_place {name : String} (hname : Text.isName name = true) (number : Nat) :
    QualifiedName.display ⟨package, name⟩ ≠ s!"{origin package}:{number}" := by
  intro h
  have hletters := congrArg String.toList h
  cases package with
  | none =>
    have hcolon : ':' ∈ name.toList := by
      rw [QualifiedName.display_mk_none] at hletters
      rw [hletters]
      simp [toString]
    exact (Text.isNameChar_plain ((Text.isName_iff.mp hname).2 _ hcolon)).2.2 rfl
  | some package =>
    simp only [QualifiedName.display_mk_some, origin, Option.getD_some, toString,
      String.toList_append, List.append_assoc] at hletters
    cases List.append_cancel_left hletters

/-- **A line that cannot be read** has another fault than any line above it that says no check. -/
theorem unread_ne_uncompiled {fault : Fault}
    (h : topmost (uncompiled s package) [] above = some fault) :
    unread package above line ≠ some fault := by
  obtain ⟨before, line', after, rfl, -, hfault⟩ := topmost_eq_some_iff.mp h
  obtain ⟨name, text, defect, hentry, hname, hdefect, rfl⟩ := fault_of_uncompiled hfault
  have htaken : name ∈ takenBy package (before ++ line' :: after) := by
    rw [List.append_cons, takenBy_append, takenBy_concat hentry]
    exact List.mem_append_right _ List.mem_cons_self
  generalize before ++ line' :: after = above at htaken
  unfold unread readLine
  cases entry line with
  | error defect' =>
    intro heq
    have hsubject := (Fault.malformed.inj (Option.some.inj heq)).1
    exact display_ne_place hname _ hsubject.symm
  | ok said =>
    cases said with
    | none => nofun
    | some declared =>
      obtain ⟨name', text'⟩ := declared
      simp only
      split_ifs with hmem
      · intro heq
        have hmessage := (Fault.malformed.inj (Option.some.inj heq)).2
        exact hdefect.message_ne_repeated _ hmessage.symm
      · cases hparse : Instruction.parse ⟨package, name'⟩ text' with
        | ok i => nofun
        | error rejection =>
          intro heq
          have hsubject := (Fault.malformed.inj (Option.some.inj heq)).1
          rw [subject_of_parse_eq_error hparse] at hsubject
          exact hmem (display_left_injective hsubject ▸ htaken)

/-! ## The fault that is reported -/

/-- Where some lines can be read and one of them says no check, no line below them counts. -/
theorem topmost_unloaded_append {fault : Fault} (hread : topmost (unread package) [] above = none)
    (hcompiled : topmost (uncompiled s package) [] above = some fault)
    (below : List (List Char)) :
    topmost (unloaded s package) [] (above ++ below) = some fault := by
  have habove : topmost (unloaded s package) [] above = some fault :=
    (topmost_or_of_eq_none hread).trans hcompiled
  rw [topmost_append, habove, Option.some_or]

/-- **Where loading reports the topmost fault**: exactly if no line above the topmost one that
cannot be read says an instruction that is no check. -/
theorem load_reports_topmost_iff {s : Surroundings} {package : Option String} {text : String}
    {log : Log} {fault : Fault} (h : (s.run (load package text) log).result = .error fault) :
    let lines := Text.lines text.toList
    (topmost (unread package) [] lines).or (topmost (uncompiled s package) [] lines) = some fault ∧
      (topmost (unloaded s package) [] lines = some fault ↔
        ∀ above line below, lines = above ++ line :: below →
          topmost (unread package) [] above = none → (unread package above line).isSome →
            topmost (uncompiled s package) [] above = none) := by
  intro lines
  have hload : s.result (load package text) = .error fault := (s.result_run _ log).symm.trans h
  have hfault : (topmost (unread package) [] lines).or (topmost (uncompiled s package) [] lines) =
      some fault := by
    rw [← fault?_load, hload]
    rfl
  refine ⟨hfault, fun htopmost above line below hlines habove hline => ?_, fun hclean => ?_⟩
  · -- a fault above would be topmost, and it is never the one of a line that cannot be read
    obtain ⟨hidden, hhidden⟩ := Option.isSome_iff_exists.mp hline
    have hunread : topmost (unread package) [] lines = some hidden :=
      topmost_eq_some_iff.mpr ⟨above, line, below, hlines, habove, hhidden⟩
    rw [hunread, Option.some_or] at hfault
    obtain rfl := Option.some.inj hfault
    by_contra hcompiled
    obtain ⟨shown, hshown⟩ := Option.ne_none_iff_exists'.mp hcompiled
    have htop := topmost_unloaded_append habove hshown (line :: below)
    rw [← hlines, htopmost] at htop
    obtain rfl := Option.some.inj htop
    exact unread_ne_uncompiled hshown hhidden
  · cases hunread : topmost (unread package) [] lines with
    | none =>
      rw [hunread, Option.none_or] at hfault
      exact (topmost_or_of_eq_none hunread).trans hfault
    | some shown =>
      rw [hunread, Option.some_or] at hfault
      obtain rfl := Option.some.inj hfault
      obtain ⟨above, line, below, hlines, habove, hline⟩ := topmost_eq_some_iff.mp hunread
      have hcompiled := hclean above line below hlines habove (Option.isSome_of_eq_some hline)
      refine topmost_eq_some_iff.mpr ⟨above, line, below, hlines, ?_, ?_⟩
      · exact (topmost_or_of_eq_none habove).trans hcompiled
      · rw [unloaded, hline, Option.some_or]

/-- A line that cannot be read above an instruction that is no check. -/
theorem load_reports_topmost_iff_first :
    let s := World.empty.surroundings
    let text := "nonsense\nt1: give c"
    (s.run (load none text) .empty).result =
        .error (.malformed "<suite>:1" "Expected \"<name>: <instruction>\".") ∧
      topmost (unloaded s none) [] (Text.lines text.toList) =
        some (.malformed "<suite>:1" "Expected \"<name>: <instruction>\".") := by
  have h : (World.empty.surroundings.run (load none "nonsense\nt1: give c") .empty).result =
      .error (.malformed "<suite>:1" "Expected \"<name>: <instruction>\".") := by rfl
  have hlines : Text.lines "nonsense\nt1: give c".toList =
      ["nonsense".toList, "t1: give c".toList] := by decide
  have hfirst : (unread none [] "nonsense".toList).isSome = true := by decide
  refine ⟨h, (load_reports_topmost_iff h).2.mpr fun above line below hsplit habove _ => ?_⟩
  cases above with
  | nil => rfl
  | cons first above =>
    rw [hlines] at hsplit
    obtain ⟨rfl, -⟩ := List.cons.inj hsplit
    rw [topmost, Option.or_eq_none_iff] at habove
    rw [habove.1] at hfirst
    cases hfirst

/-- **A line that cannot be read hides** an instruction above it that is no check. -/
theorem load_reports_line_below :
    let s := World.empty.surroundings
    let text := "t1: give c\nnonsense"
    (s.run (load none text) .empty).result =
        .error (.malformed "<suite>:2" "Expected \"<name>: <instruction>\".") ∧
      topmost (unloaded s none) [] (Text.lines text.toList) =
        some (.malformed "t1" "Expected a \"test\" instruction, got \"give\".") := by
  exact ⟨by rfl, by rfl⟩

end Suite

end QuestCheck
