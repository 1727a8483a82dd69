import QuestCheck.Misreading
import QuestCheck.Text.Blank
import QuestCheck.Text.Cut
import QuestCheck.Text.Name

/-!
# Qualified names

A condition and a check are named by a word, and by the package that it belongs to, if any.

* `QualifiedName`, its text `display` and its order: no package first, then by package, then by
  name, all by code points;
* `QualifiedName.parse` reads a condition's name;
* `QualifiedName.sorted`: a list in that order, each name once.
-/

namespace QuestCheck

/-- A name within a package, or without one. -/
structure QualifiedName where
  package : Option String
  name : String
  deriving DecidableEq, Repr

namespace QualifiedName

/-- The written form: the package and a `>` in front of the name. -/
def display (q : QualifiedName) : String :=
  match q.package with
  | none => q.name
  | some package => package ++ ">" ++ q.name

/-- Every part is a name. -/
def Valid (q : QualifiedName) : Prop :=
  Text.isName q.name = true ∧ ∀ package, q.package = some package → Text.isName package = true

/-- The part of a text before the first `>`, if there is one, and the rest. -/
def split (text : List Char) : QualifiedName :=
  match Text.cutAt '>' text with
  | none => ⟨none, String.ofList text⟩
  | some (package, name) => ⟨some (String.ofList package), String.ofList name⟩

/-- The condition named by a text, blanks around it aside. -/
def parse : Reading QualifiedName := fun raw =>
  let text := Text.trim raw.toList
  let q := split text
  match q.package.filter (!Text.isName ·) with
  | some package => .error (.badPackage package)
  | none => if Text.isName q.name then .ok q else .error (.badName (String.ofList text))

/-- No package first, then by package, then by name. -/
instance : Ord QualifiedName where
  compare p q := (compare p.package q.package).then (compare p.name q.name)

/-- A list in order, each name once. -/
def sorted (qs : List QualifiedName) : List QualifiedName :=
  (qs.mergeSort fun p q => (compare p q).isLE).eraseReps

theorem display_mk_none (name : String) : display ⟨none, name⟩ = name := rfl

theorem display_mk_some (package name : String) :
    display ⟨some package, name⟩ = package ++ ">" ++ name := rfl

/-- **Cutting loses nothing.** -/
theorem display_split (text : List Char) : (split text).display = String.ofList text := by
  unfold split
  split
  · rfl
  · next package name h =>
    obtain ⟨rfl, _⟩ := Text.cutAt_eq_some_iff.mp h
    apply String.toList_inj.mp
    simp [display]

end QualifiedName

end QuestCheck
