/-!
# Arguments of the command

`run --scripts-dir <directory> [--world <file>] [--actor <id>]... [-v | --verbose]`: an option has
its value behind an equals sign or as the next argument, and only `--actor` may stand twice.

* `Options`, and `Usage`, why there are none;
* `Word`: what an argument looks like;
* `Options.parse`.
-/

namespace QuestCheck.Command

/-- What a run of the command is asked to do. -/
structure Options where
  scriptsDir : String
  world : Option String
  actors : List String
  verbose : Bool
  deriving DecidableEq, Repr

/-- Why nothing is run: help is asked for, or the arguments are wrong. -/
inductive Usage where
  | help
  | wrong
  deriving DecidableEq, Repr

/-- Asking for help is no failure. -/
def Usage.exitCode : Usage → Nat
  | help => 0
  | wrong => 2

/-- What an argument looks like. -/
inductive Word where
  /-- Two hyphens, a name and perhaps a value behind an equals sign. -/
  | long (name : String) (value : Option String)
  /-- One hyphen and letters. -/
  | short (letters : List Char)
  /-- Two hyphens alone. -/
  | stop
  /-- Anything else, a hyphen alone among it. -/
  | plain
  deriving DecidableEq, Repr

/-- The look of an argument. -/
def Word.of (argument : String) : Word :=
  match argument.toList with
  | ['-', '-'] => .stop
  | '-' :: '-' :: rest =>
    let name := String.ofList (rest.takeWhile (· != '='))
    match rest.dropWhile (· != '=') with
    | [] => .long name none
    | _ :: value => .long name (some (String.ofList value))
  | '-' :: c :: rest => .short (c :: rest)
  | _ => .plain

/-- The options that have been read. -/
structure Draft where
  scriptsDir : Option String
  world : Option String
  actors : List String
  verbose : Bool
  deriving DecidableEq, Repr

namespace Draft

/-- No option. -/
def empty : Draft := ⟨none, none, [], false⟩

/-- The name has a value. -/
def takesValue (name : String) : Bool := name ∈ ["scripts-dir", "world", "actor"]

/-- One more option with a value. -/
def setValue (d : Draft) (name value : String) : Except Usage Draft :=
  if name = "scripts-dir" ∧ d.scriptsDir = none then .ok { d with scriptsDir := some value }
  else if name = "world" ∧ d.world = none then .ok { d with world := some value }
  else if name = "actor" then .ok { d with actors := d.actors ++ [value] }
  else .error .wrong

/-- The option without a value that makes the command talkative. -/
def setVerbose (d : Draft) : Except Usage Draft :=
  if d.verbose then .error .wrong else .ok { d with verbose := true }

/-- One more letter behind a hyphen. -/
def setLetter (d : Draft) (c : Char) : Except Usage Draft :=
  if c = 'h' then .error .help
  else if c = 'v' then d.setVerbose
  else .error .wrong

/-- One more name without a value. -/
def setFlag (d : Draft) (name : String) : Except Usage Draft :=
  if name = "help" then .error .help
  else if name = "verbose" then d.setVerbose
  else .error .wrong

/-- The arguments from left to right; the first wrong one, or one that asks for help, ends them. -/
def read (d : Draft) : List String → Except Usage Draft
  | [] => .ok d
  | argument :: rest =>
    match Word.of argument with
    | .long name (some value) => do read (← d.setValue name value) rest
    | .long name none =>
      if takesValue name then
        match rest with
        | [] => .error .wrong
        | value :: rest =>
          if Word.of value = .plain then do read (← d.setValue name value) rest else .error .wrong
      else do read (← d.setFlag name) rest
    | .short letters => do read (← letters.foldlM setLetter d) rest
    | .stop => if rest.isEmpty then .ok d else .error .wrong
    | .plain => .error .wrong

/-- The options, of which the directory has to be there. -/
def finish (d : Draft) : Except Usage Options :=
  match d.scriptsDir with
  | none => .error .wrong
  | some scriptsDir => .ok ⟨scriptsDir, d.world, d.actors, d.verbose⟩

end Draft

/-- The options that the arguments say. -/
def Options.parse : List String → Except Usage Options
  | [] => .error .wrong
  | first :: rest =>
    if first = "run" then Draft.empty.read rest >>= Draft.finish
    else if first = "help" then .error (if rest ∈ [[], ["run"], ["help"]] then .help else .wrong)
    else
      match Word.of first with
      | .long name none => .error (if name = "help" then .help else .wrong)
      | .short ('h' :: _) => .error .help
      | _ => .error .wrong

end QuestCheck.Command
