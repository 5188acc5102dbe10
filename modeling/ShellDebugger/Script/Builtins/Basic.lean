import ShellDebugger.Script.Arithmetic
import ShellDebugger.Script.Reader
import ShellDebugger.Script.Shell

/-!
# What the commands of the interpreter have in common

The names of the commands that act on the interpreter, and how their arguments are read. The
commands that list, mark, unset and keep variables, and the one that drops arguments.
-/

namespace ShellDebugger.Script.Builtins

open Run

/-- The commands that count as part of the language: an assignment before one of them stays, and an
error in one of them ends the script. -/
def special : List String := Read.reservedNames

def ordinary : List String :=
  ["[", "alias", "cd", "command", "echo", "false", "getopts", "hash", "jobs", "kill", "printf",
   "pwd", "read", "test", "true", "type", "umask", "unalias", "wait"]

/-- The commands whose arguments may be assignments. -/
def assigning : List String := ["export", "local", "readonly"]

def countOf (argument : Text) : Run Nat :=
  match Arithmetic.count? argument with
  | some n => return n
  | none => fail s!"Illegal number: {shown argument}"

def nameAndValue (argument : Text) : Text × Option Text :=
  let name := argument.takeWhile (· != '=')
  (name, if name.length < argument.length then some (argument.drop (name.length + 1)) else none)

/-- A text in quotation marks: single ones, and double ones around single ones. -/
def quoted (text : Text) : Text :=
  go text (text.length + 1)
where
  /-- Quotes what is left of a text. -/
  go (text : Text) : Nat → Text
    | 0 => []
    | fuel + 1 =>
      let plain := text.takeWhile (· != '\'')
      let rest := text.drop plain.length
      let marks := rest.takeWhile (· == '\'')
      let here := '\'' :: plain ++ ['\'']
      if marks.isEmpty then here
      else
        let here := here ++ '"' :: marks ++ ['"']
        let rest := rest.drop marks.length
        if rest.isEmpty then here else here ++ go rest fuel

/-- Whether an argument has an option letter, and the arguments behind the options. Other letters
are errors. -/
def optionsOf (letters : List Char) (found : List Char) : List Text → Run (List Char × List Text)
  | ['-', '-'] :: rest => return (found, rest)
  | ('-' :: c :: cs) :: rest =>
    match (c :: cs).find? (!letters.contains ·) with
    | some wrong => fail s!"Illegal option -{wrong}"
    | none => optionsOf letters (found ++ c :: cs) rest
  | rest => return (found, rest)

/-! ## Variables -/

def mustAssign (name value : Text) : Run Unit := do
  unless ← assign name value do fail s!"{shown name}: is read only"

def list (word : Text) (chosen : Variable → Bool) : Run Nat := do
  let bindings := (← shell).bindings.filter fun (_, v) ↦ chosen v
  let sorted := bindings.mergeSort fun a b ↦ String.ofList a.1 ≤ String.ofList b.1
  print <| sorted.flatMap fun (name, v) ↦
    word ++ name ++ (v.value.map fun t ↦ '=' :: quoted t).getD [] ++ ['\n']

/-- Gives variables values if arguments say so, and changes them. -/
def declare (word : String) (change : Variable → Variable) : List Text → Run Nat
  | [] => return 0
  | a :: rest => do
    let (name, value) := nameAndValue a
    unless isName name do fail s!"{word}: {shown a}: bad variable name"
    if let some value := value then mustAssign name value
    let old := ((← shell).bindings.lookup name).getD ⟨none, false, false⟩
    setVariable name (change old)
    declare word change rest

/-- Marks variables as exported or as read-only, after giving them values, or lists them. -/
def mark (word : String) (change : Variable → Variable) (chosen : Variable → Bool)
    (arguments : List Text) : Run Nat := do
  let (options, names) ← optionsOf ['p'] [] arguments
  if options.isEmpty ∧ !names.isEmpty then declare word change names
  else list (word.toList ++ [' ']) chosen

def makeLocal : List Text → Run Nat
  | [] => return 0
  | a :: rest => do
    let (name, value) := nameAndValue a
    unless isName name do fail s!"local: {shown a}: bad variable name"
    if (← shell).frames.isEmpty then fail "local: not in a function"
    keep name
    if let some value := value then mustAssign name value
    makeLocal rest

def unset (arguments : List Text) : Run Nat := do
  let (options, names) ← optionsOf ['v', 'f'] [] arguments
  let last := options.getLast?
  for name in names do
    if last = some 'f' then
      change fun s ↦ { s with functions := s.functions.filter (·.1 != name) }
    else
      if (((← shell).bindings.lookup name).map (·.readOnly)).getD false then
        fail s!"unset: {shown name}: is read only"
      change fun s ↦ { s with bindings := s.bindings.filter (·.1 != name) }
  return 0

def shift (arguments : List Text) : Run Nat := do
  let n ← match arguments with
    | [] => pure 1
    | a :: _ => countOf a
  if (← shell).arguments.length < n then fail "shift: can't shift that many"
  change fun s ↦
    { s with arguments := s.arguments.drop n, optionIndex := 1, optionOffset := none }
  return 0

end ShellDebugger.Script.Builtins
