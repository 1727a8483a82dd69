import QuestCheck.Command.Path

/-!
# File trees

* `FileTree`, and `FileError`, why there is no file or no text;
* `FileTree.locate`: the place of a path; `FileTree.add`: a tree with one more file;
* `FileTree.files`: all files below a place, entries of a directory in the order of their names and
  each directory before what follows it;
* `FileTree.readable?`: what is read of such a file.
-/

namespace QuestCheck.Command

/-- Why there is no file or no text at a path. -/
inductive FileError where
  | notFound
  | notDirectory
  | isDirectory
  | nameTooLong
  | nulInPath
  | notText
  | other (reason : String)
  deriving DecidableEq, Repr

/-- The error in words. -/
def FileError.message : FileError → String
  | notFound => "No such file or directory (os error 2)"
  | notDirectory => "Not a directory (os error 20)"
  | isDirectory => "Is a directory (os error 21)"
  | nameTooLong => "File name too long (os error 36)"
  | nulInPath => "file name contained an unexpected NUL byte"
  | notText => "stream did not contain valid UTF-8"
  | other reason => reason

/-- A file, readable or not, or a directory. -/
inductive FileTree where
  | file (content : Except FileError ByteArray)
  | directory (entries : List (String × FileTree))

namespace FileTree

/-- The entry of a name. -/
def child? (entries : List (String × FileTree)) (name : String) : Option FileTree :=
  entries.lookup name

/-- The entries with another one in the place of a name, which comes last if it is new. -/
def setChild (name : String) (t : FileTree) : List (String × FileTree) → List (String × FileTree)
  | [] => [(name, t)]
  | e :: rest => if e.1 = name then (name, t) :: rest else e :: setChild name t rest

/-- The tree with a file or a directory at the segments of a path, directories on the way to it
being made. -/
def put : FileTree → List String → FileTree → FileTree
  | directory entries, name :: rest, new =>
    directory (setChild name (((child? entries name).getD (directory [])).put rest new) entries)
  | file content, _ :: _, _ => file content
  | directory entries, [], directory [] => directory entries
  | _, [], new => new

/-- A tree with a file or a directory at the end of segments that start at a place, where a dot is
the place itself and two dots are the place above. -/
def addFrom (new : FileTree) (root : FileTree) (place : List String) : List String → FileTree
  | [] => root.put place new
  | segment :: rest =>
    if segment = "" ∨ segment = "." then addFrom new root place rest
    else if segment = ".." then
      addFrom new (root.put place (directory [])) place.dropLast rest
    else addFrom new root (place ++ [segment]) rest

/-- The tree with a file or a directory at a path, directories on the way to it being made. -/
def add (root : FileTree) (working : List String) (path : String) (new : FileTree) : FileTree :=
  addFrom new root (if Path.isAbsolute path then [] else working) (Path.segments path)

/-- The place at the end of segments that start at a place, where a dot is the place itself and two
dots are the place above; above the root is the root. -/
def descend (place : FileTree) (above : List FileTree) : List String → Except FileError FileTree
  | [] => .ok place
  | segment :: rest =>
    match place with
    | file _ => .error .notDirectory
    | directory entries =>
      if segment = "" ∨ segment = "." then descend place above rest
      else if segment = ".." then
        match above with
        | [] => descend place [] rest
        | up :: above => descend up above rest
      else if Path.isLongName segment then .error .nameTooLong
      else
        match child? entries segment with
        | none => .error .notFound
        | some t => descend t (place :: above) rest

/-- The place of a path, from the root or from the working directory. -/
def locate (root : FileTree) (working : List String) (path : String) : Except FileError FileTree :=
  if '\x00' ∈ path.toList then .error .nulInPath
  else if path = "" then .error .notFound
  else if Path.isTooLong path then .error .nameTooLong
  else
    descend root [] ((if Path.isAbsolute path then [] else working) ++ Path.segments path)

/-- The text of a content. -/
def decode (content : Except FileError ByteArray) : Except FileError String := do
  match String.fromUTF8? (← content) with
  | some text => return text
  | none => .error .notText

/-- The text at a place. -/
def text : FileTree → Except FileError String
  | file content => decode content
  | directory _ => .error .isDirectory

/-- A file below a place: its path, segment by segment, and its content. -/
abbrev Found : Type := List String × Except FileError ByteArray

mutual

/-- All files below a place. -/
def files : FileTree → List Found
  | file content => [([], content)]
  | directory entries =>
    ((branches entries).mergeSort fun a b => (compare a.1 b.1).isLE).flatMap fun b =>
      b.2.map fun f => (b.1 :: f.1, f.2)

/-- The files below each entry. -/
def branches : List (String × FileTree) → List (String × List Found)
  | [] => []
  | (name, t) :: rest => (name, files t) :: branches rest

end

/-- What is read of a file below a place: a directory whose own path is too long is not entered, and
a file whose path is too long cannot be read. -/
def readable? (root : String) (f : Found) : Option (Except FileError ByteArray) :=
  let directory := f.1.dropLast
  if directory ≠ [] ∧ Path.isTooLong (Path.join root directory) then none
  else if Path.isTooLong (Path.join root f.1) then some (.error .nameTooLong)
  else some f.2

end FileTree

end QuestCheck.Command
