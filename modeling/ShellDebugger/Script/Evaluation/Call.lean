import ShellDebugger.Script.Builtins.Basic
import ShellDebugger.Script.Evaluation.Redirection

/-!
# Calls

What the words of a simple command call, once they are expanded, and how the command is traced.
-/

namespace ShellDebugger.Script.Evaluation

open Run

/-- A command with its name, once its words are expanded. -/
structure Call where
  name : Text
  arguments : List Text
  /-- Whether functions count. -/
  functions : Bool
  /-- Whether only the usual directories are searched. -/
  usually : Bool

/-- Reads options of `command` that only say where the command is looked for. -/
def whereOptions (usually : Bool) : List Text → Option (Bool × List Text)
  | [] => none
  | ['-', '-'] :: rest => if rest.isEmpty then none else some (usually, rest)
  | ('-' :: 'p' :: more) :: rest => if more.all (· == 'p') then whereOptions true rest else none
  | ('-' :: _ :: _) :: _ => none
  | rest => some (usually, rest)

/-- Takes the name of a command off words: what precedes it says how it is looked for. -/
def callAfter (functions usually : Bool) : List Text → Nat → Option Call
  | [], _ => none
  | _, 0 => none
  | name :: rest, fuel + 1 =>
    if name = "command".toList then
      match whereOptions false rest with
      | none => some ⟨name, rest, functions, usually⟩
      | some (usually, rest) => callAfter false usually rest fuel
    else some ⟨name, rest, functions, usually⟩

def callOf (words : List Text) : Option Call :=
  callAfter true false words (words.length + 1)

/-- Expands the words of a command. Behind the name of a command that assigns, assignments are not
cut into fields. -/
def fieldsOf (substitute : Expansion.Substitute) (fields : List Text) : List Word → Run (List Text)
  | [] => return fields
  | w :: rest => do
    let functions := (← shell).functions
    let assigns := (callOf fields).any fun c ↦
      Builtins.assigning.contains (String.ofList c.name) &&
        !(c.functions && (functions.lookup c.name).isSome)
    match if assigns then Read.assignment? w else none with
    | some (name, value) =>
      let text ← Expansion.value substitute value
      fieldsOf substitute (fields ++ [name ++ '=' :: text]) rest
    | none => fieldsOf substitute (fields ++ (← Expansion.fields substitute w)) rest

/-- Assigns expanded values to variables, and tells what was assigned. -/
def assignAll (substitute : Expansion.Substitute) (isLocal : Bool) :
    List (Text × Word) → Run (List Text)
  | [] => return []
  | (name, w) :: rest => do
    let value ← Expansion.value substitute w
    if isLocal then keep name
    Builtins.mustAssign name value
    if isLocal then setVariable name ⟨some value, true, false⟩
    return (name ++ '=' :: value) :: (← assignAll substitute isLocal rest)

def tracePrefix (substitute : Expansion.Substitute) : Run Text := do
  let text := (← valueOf? "PS4".toList).getD []
  let source : Source := ⟨text, true, [], [], 0, [], [], none⟩
  match (Read.partsAfter Read.incomplete .document [] Read.steps).run source with
  | .ok (parts, _) => Expansion.text substitute (Read.finish parts)
  | .error _ => return text

/-- Tells a command before it runs, to where the standard error output led before. -/
def trace (substitute : Expansion.Substitute) (saved : Saved) (words : List Text) : Run Unit := do
  if (← isOn 'x') && !(← shell).tracing then
    change ({ · with tracing := true })
    let start ← tracePrefix substitute
    change ({ · with tracing := false })
    let descriptor := ((saved.lookup 2).getD none).getD 2
    let _ ← write descriptor (start ++ [' '].intercalate words ++ ['\n'])

end ShellDebugger.Script.Evaluation
