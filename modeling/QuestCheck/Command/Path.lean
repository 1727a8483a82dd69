import QuestCheck.Text.Cut

/-!
# Paths

A path is a text whose segments stand between slashes. It starts at the root if its first character
is a slash, and else at the working directory.

* `Path.segments`; `Path.isAbsolute`;
* `Path.isTooLong`, `Path.isLongName`: the limits that a system sets;
* `Path.join`: a path below another one.
-/

namespace QuestCheck.Command.Path

/-- The segments of a path. -/
def segments (path : String) : List String :=
  (path.toList.foldr (fun c ss => if c = '/' then [] :: ss else Text.extendLine c ss) [[]]).map
    String.ofList

/-- The path starts at the root. -/
def isAbsolute (path : String) : Bool := path.toList.head? == some '/'

/-- A path has less than 4096 bytes. -/
def isTooLong (path : String) : Bool := 4096 ≤ path.utf8ByteSize

/-- The name of an entry has at most 255 bytes. -/
def isLongName (name : String) : Bool := 255 < name.utf8ByteSize

/-- A path below another one, with one slash between them. -/
def join (path : String) (segments : List String) : String :=
  let rest := "/".intercalate segments
  if path.toList.getLast? = some '/' then path ++ rest else path ++ "/" ++ rest

end QuestCheck.Command.Path
