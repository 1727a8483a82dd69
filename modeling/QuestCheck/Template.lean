import QuestCheck.Misreading

/-!
# Message templates

A message is written with `%s` where a value goes and `%%` for a percent sign; no other use of the
percent sign means anything.

* `Template`, its written form `raw`, its number of `holes` and its text `fill` for given values;
* `Template.parse` reads a message with at most as many holes as there are values;
* `Template.segments`: the message as runs of plain text and holes;
* **`scan_eq_ok_iff`**: a text is read as exactly the parts whose written form it is.
-/

namespace QuestCheck

/-- A piece of a message: a character, or a hole for a value. -/
inductive Part where
  | char (c : Char)
  | hole
  deriving DecidableEq, Repr

/-- A message with holes for values. -/
structure Template where
  parts : List Part
  deriving DecidableEq, Repr

namespace Template

/-- The written form of a part: `%s` for a hole, the percent sign twice, any other character as
it is. -/
def writePart : Part → List Char
  | .hole => ['%', 's']
  | .char c => if c = '%' then ['%', '%'] else [c]

/-- The written form of a message. -/
def raw (t : Template) : String := String.ofList (t.parts.flatMap writePart)

/-- The number of holes. -/
def holes (t : Template) : Nat := t.parts.count .hole

/-- What keeps a text from being a message, its holes not counted. -/
inductive Flaw where
  | unknownMark (mark : Char)
  | danglingMark
  deriving DecidableEq, Repr

/-- The misreading of a text with a flaw. -/
def Flaw.misreading (text : String) : Flaw → Misreading
  | unknownMark mark => .unknownMark mark text
  | danglingMark => .danglingMark text

/-- The parts of a text, or its first flaw. -/
def scan : List Char → Except Flaw (List Part)
  | [] => .ok []
  | ['%'] => .error .danglingMark
  | '%' :: '%' :: rest => (scan rest).map (.char '%' :: ·)
  | '%' :: 's' :: rest => (scan rest).map (.hole :: ·)
  | '%' :: c :: _ => .error (.unknownMark c)
  | c :: rest => (scan rest).map (.char c :: ·)

/-- The message written as a text, with at most `arity` holes. -/
def parse (arity : Nat) : Reading Template := fun text =>
  match scan text.toList with
  | .error flaw => .error (flaw.misreading text)
  | .ok parts =>
    let t : Template := ⟨parts⟩
    if t.holes ≤ arity then .ok t else .error (.tooManyHoles text t.holes arity)

/-- Parts with the values put into the holes in order. -/
def fillParts : List Part → List String → List Char
  | [], _ => []
  | .char c :: ps, values => c :: fillParts ps values
  | .hole :: ps, [] => fillParts ps []
  | .hole :: ps, v :: values => v.toList ++ fillParts ps values

/-- The message with the values in its holes in order: a hole without a value stays empty, and a
value without a hole is dropped. -/
def fill (t : Template) (values : List String) : String := String.ofList (fillParts t.parts values)

/-! ## Runs of plain text -/

/-- A run of plain text, or a hole. -/
inductive Segment where
  | literal (text : String)
  | hole
  deriving DecidableEq, Repr

/-- One more character in front of the segments. -/
def extend (c : Char) : List Segment → List Segment
  | .literal text :: rest => .literal (String.singleton c ++ text) :: rest
  | rest => .literal (String.singleton c) :: rest

/-- The message as runs of plain text, none empty and no two in a row, and holes. -/
def segments (t : Template) : List Segment :=
  t.parts.foldr (fun p rest =>
    match p with
    | .char c => extend c rest
    | .hole => .hole :: rest) []

/-! ## Reading and writing -/

theorem scan_append_writePart (p : Part) (cs : List Char) :
    scan (writePart p ++ cs) = (scan cs).map (p :: ·) := by
  cases p with
  | hole => rfl
  | char c =>
    by_cases h : c = '%'
    · subst h
      rfl
    · cases cs <;> simp [writePart, scan, h]

/-- **A written message is read back.** -/
theorem scan_write (ps : List Part) : scan (ps.flatMap writePart) = .ok ps := by
  induction ps with
  | nil => rfl
  | cons p ps ih =>
    rw [List.flatMap_cons, scan_append_writePart, ih]
    rfl

theorem eq_write_of_scan {cs : List Char} {ps : List Part} (h : scan cs = .ok ps) :
    cs = ps.flatMap writePart := by
  fun_induction scan cs generalizing ps with
  | case1 => cases h; rfl
  | case2 => cases h
  | case3 rest ih =>
    cases hr : scan rest with
    | error e => rw [hr] at h; cases h
    | ok qs => rw [hr] at h; cases h; simp [writePart, ← ih hr]
  | case4 rest ih =>
    cases hr : scan rest with
    | error e => rw [hr] at h; cases h
    | ok qs => rw [hr] at h; cases h; simp [writePart, ← ih hr]
  | case5 => cases h
  | case6 c rest halone _ _ hmark ih =>
    have hc : c ≠ '%' := by
      rintro rfl
      cases rest with
      | nil => exact halone rfl rfl
      | cons d ds => exact hmark d ds rfl rfl
    cases hr : scan rest with
    | error e => rw [hr] at h; cases h
    | ok qs => rw [hr] at h; cases h; simp [writePart, hc, ← ih hr]

/-- **A text is read as the parts whose written form it is.** -/
theorem scan_eq_ok_iff {cs : List Char} {ps : List Part} :
    scan cs = .ok ps ↔ cs = ps.flatMap writePart :=
  ⟨eq_write_of_scan, fun h => h ▸ scan_write ps⟩

@[simp] theorem fill_nil (values : List String) : fill ⟨[]⟩ values = "" := rfl

end Template

end QuestCheck
