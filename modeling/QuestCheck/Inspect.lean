import QuestCheck.Text.Quoted
import QuestCheck.Truth

/-!
# Inspection

A value is shown by its structure on one line: a record by its name and its fields, a choice by its
name and what it holds, a text in quotes.

* `text`, `option`, `choice`, `list`, `record`, `openRecord`.
-/

namespace QuestCheck.Inspect

/-- A text. -/
def text (s : String) : String := Text.quoted s

/-- A named choice with what it holds. -/
def choice (name content : String) : String := name ++ "(" ++ content ++ ")"

/-- A value that may be missing. -/
def option : Option String → String
  | none => "None"
  | some content => choice "Some" content

/-- A list. -/
def list (contents : List String) : String := "[" ++ ", ".intercalate contents ++ "]"

/-- The fields of a record. -/
def fields (contents : List (String × String)) : List String :=
  contents.map fun p => p.1 ++ ": " ++ p.2

/-- A record with all its fields. -/
def record (name : String) (contents : List (String × String)) : String :=
  name ++ " \x7b " ++ ", ".intercalate (fields contents) ++ " \x7d"

/-- A record of which some fields are not shown. -/
def openRecord (name : String) (contents : List (String × String)) : String :=
  name ++ " \x7b " ++ ", ".intercalate (fields contents ++ [".."]) ++ " \x7d"

end QuestCheck.Inspect
