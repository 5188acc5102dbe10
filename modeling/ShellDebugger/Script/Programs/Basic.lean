import ShellDebugger.Script.Shell

/-!
# What programs have in common

A program that a script calls is what it does with its arguments and its descriptors. What it comes
to is its exit status. Programs that collect what they print write it when there is much of it and
at their end.
-/

namespace ShellDebugger.Script.Programs

open Run

def rounds : Nat := 1000000

def block : Nat := 8192

def opened : Nat := 3

/-- Writes a complaint of a program to the standard error output. -/
def grumble (name message : String) : Run Unit := do
  let _ ← write 2 (textOf (s!"{name}: {message}\n").toUTF8.toList)

def reasonOf : IoError → String
  | .refused errno => errno.description
  | cause => cause.message

/-- Writes to the standard output; whether that could be done. -/
def put (name : String) (text : Text) : Run Bool := do
  match ← write 1 text with
  | .ok () => return true
  | .error cause =>
    grumble name s!"write error: {reasonOf cause}"
    return false

def collected : Nat := 4096

/-- Collects a text behind what was collected, and writes all if it is much. -/
def collect (name : String) (pending text : Text) : Run (Option Text) := do
  let pending := pending ++ text
  if pending.length < collected then return some pending
  return if ← put name pending then some [] else none

def readAll (descriptor : Nat) (read : List Text) : Nat → Run (Except IoError Text)
  | 0 => return .ok read.reverse.flatten
  | fuel + 1 => do
    match ← ask (.read descriptor block false) with
    | .error cause => return .error cause
    | .ok [] => return .ok read.reverse.flatten
    | .ok text => readAll descriptor (text :: read) fuel

/-- Opens the file that an operand names; a minus names the standard input. -/
def openOperand (path : Text) : Run (Except IoError Nat) := do
  if path = ['-'] then return .ok 0
  return (← openFile opened path .read).map fun _ ↦ opened

/-! ## Options -/

/-- An option that a program knows: its letter, its names, and whether a value follows it. -/
structure OptionForm where
  letter : Char
  names : List String
  takesValue : Bool

/-- The arguments of a program: its options in order, each with its value, and its operands. -/
structure Arguments where
  options : List (Char × Text)
  operands : List Text

def Arguments.withOption (letter : Char) (value : Text) (arguments : Arguments) : Arguments :=
  { arguments with options := (letter, value) :: arguments.options }

def Arguments.withOperand (operand : Text) (arguments : Arguments) : Arguments :=
  { arguments with operands := operand :: arguments.operands }

/-- What an argument with options says: the options, and the letter of the last one if its value is
the next argument. -/
structure OptionsRead where
  options : List (Char × Text)
  awaiting : Option Char

/-- The options whose letters follow each other. What follows the letter of an option with a value
is the value. -/
def OptionsRead.ofLetters (forms : List OptionForm) : Text → Option OptionsRead
  | [] => some ⟨[], none⟩
  | c :: rest => do
    let form ← forms.find? (·.letter == c)
    if form.takesValue then
      return if rest.isEmpty then ⟨[], some c⟩ else ⟨[(c, rest)], none⟩
    let others ← ofLetters forms rest
    return { others with options := (c, []) :: others.options }

/-- The option that a name stands for, or the start of one that is the start of no other option's.
A value follows behind an equals sign. -/
def OptionsRead.ofName (forms : List OptionForm) (text : Text) : Option OptionsRead := do
  let name := text.takeWhile (· != '=')
  let exact := forms.filter fun form ↦ form.names.any (·.toList == name)
  let begun := forms.filter fun form ↦ form.names.any fun n ↦ name.isPrefixOf n.toList
  let form ← match exact, begun with
    | form :: _, _ => some form
    | [], [form] => some form
    | [], _ => none
  match text.drop name.length, form.takesValue with
  | _ :: value, true => return ⟨[(form.letter, value)], none⟩
  | [], true => return ⟨[], some form.letter⟩
  | [], false => return ⟨[(form.letter, [])], none⟩
  | _ :: _, false => none

/-- Reads arguments, the first of which is the value of an option if its letter awaits one. Options
behind operands count if they are `mixed`. -/
def Arguments.read (forms : List OptionForm) (mixed : Bool) (awaiting : Option Char) :
    List Text → Option Arguments
  | [] => if awaiting.isSome then none else some ⟨[], []⟩
  | a :: rest =>
    match awaiting, a with
    | some letter, _ => (read forms mixed none rest).map (·.withOption letter a)
    | none, ['-', '-'] => some ⟨[], rest⟩
    | none, '-' :: '-' :: name => do
      let found ← OptionsRead.ofName forms name
      let others ← read forms mixed found.awaiting rest
      return { others with options := found.options ++ others.options }
    | none, '-' :: c :: letters => do
      let found ← OptionsRead.ofLetters forms (c :: letters)
      let others ← read forms mixed found.awaiting rest
      return { others with options := found.options ++ others.options }
    | none, _ =>
      if mixed then (read forms mixed none rest).map (·.withOperand a)
      else some ⟨[], a :: rest⟩

def Arguments.ofTexts (forms : List OptionForm) (mixed : Bool) (texts : List Text) :
    Option Arguments :=
  Arguments.read forms mixed none texts

def Arguments.has (arguments : Arguments) (letter : Char) : Bool :=
  arguments.options.any (·.1 == letter)

end ShellDebugger.Script.Programs
