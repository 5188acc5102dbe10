import ShellDebugger.Script.Activity
import ShellDebugger.Text.Utf8

/-!
# The interpreter

What an interpreter of scripts keeps: variables, functions, traps, options and the directory it is
in. A `Run` is a part of what it does: it may read and change the interpreter, make requests and
start processes, and comes to a value or to a `Halt`. What the process does afterwards is handed to
it, so that a part of a process is an `Activity` as soon as its rest is known.
-/

namespace ShellDebugger.Script

/-- Why an interpreter does not go on to the next command. -/
inductive Halt where
  /-- It ends, with a status if one was given. -/
  | exit (status : Option Nat)
  /-- An error, which ends it unless a command that may fail has made it. -/
  | failure
  /-- It leaves loops. -/
  | leave (levels : Nat)
  /-- It goes on with the next turn of a loop. -/
  | again (levels : Nat)
  /-- It leaves a function or a file, with a status if one was given. -/
  | returned (status : Option Nat)
  deriving DecidableEq, Repr, Inhabited

structure Variable where
  value : Option Text
  exported : Bool
  readOnly : Bool
  deriving Repr

/-- The interpreter. Without more, it is as it starts. -/
structure Shell where
  name : Text
  processId : Nat
  parentId : Nat
  bindings : List (Text × Variable)
  directory : Place
  /-- The path by which the directory was reached. -/
  path : Text := []
  /-- The permissions that new files do not get. -/
  mask : Nat := 0o022
  /-- The signals that stay ignored because they were when the interpreter started. -/
  ignored : List Nat := []
  arguments : List Text := []
  /-- The number of the argument at which options are read next. -/
  optionIndex : Nat := 1
  /-- The place in the argument before that one, if options in it are left. -/
  optionOffset : Option Nat := none
  /-- What the variables that are local to commands were before, innermost command first. -/
  frames : List (List (Text × Option Variable)) := []
  functions : List (Text × Command) := []
  aliases : List (Text × Text) := []
  /-- The actions of traps, by the number of the signal; 0 is the exit. -/
  traps : List (Nat × Text) := []
  /-- The letters of the options that are on. -/
  options : List Char := []
  /-- The signals that have come and whose traps did not run yet. -/
  arrived : List Nat := []
  /-- The status of the last command. -/
  status : Nat := 0
  /-- The status that was there when the action of a trap began to run. -/
  interrupted : Option Nat := none
  /-- The processes of each background command, last command first. -/
  jobs : List (List Nat) := []
  /-- The last process of the last background command. -/
  lastJob : Option Nat := none
  /-- The status of the last substitution in the command that is being run. -/
  substituted : Nat := 0
  /-- The number of loops that the command is in. -/
  loops : Nat := 0
  /-- The number of functions that are running, each called by the one before. -/
  calls : Nat := 0
  /-- Whether a command is being traced. -/
  tracing : Bool := false
  /-- The here-documents that were read. -/
  documents : List (Nat × Word) := []
  nextDocument : Nat := 0

/-- A part of what an interpreter does. Its rest is told how the part ended, and the interpreter
then. -/
def Run (α : Type) : Type := Shell → (Except Halt α → Shell → Activity) → Activity

namespace Run

variable {α : Type}

instance : Monad Run where
  pure value := fun s rest ↦ rest (.ok value) s
  bind x f := fun s rest ↦ x s fun
    | .ok value, s => f value s rest
    | .error halt, s => rest (.error halt) s

instance : MonadExceptOf Halt Run where
  throw halt := fun s rest ↦ rest (.error halt) s
  tryCatch x handle := fun s rest ↦ x s fun
    | .ok value, s => rest (.ok value) s
    | .error halt, s => handle halt s rest

instance : Inhabited (Run α) := ⟨fun s rest ↦ rest (.error .failure) s⟩

def shell : Run Shell := fun s rest ↦ rest (.ok s) s

def change (f : Shell → Shell) : Run Unit := fun s rest ↦ rest (.ok ()) (f s)

def ask (request : Request) : Run request.Answer := fun s rest ↦
  .ask request fun answer ↦ rest (.ok answer) s

def quit (status : Nat) : Run α := fun _ _ ↦ .exit status

def activity (act : Run Nat) (s : Shell) : Activity :=
  act s fun
    | .ok status, _ => .exit status
    | .error _, s => .exit s.status

def fork (child : Run Nat) : Run Nat := fun s rest ↦
  .fork (activity child s) fun number ↦ rest (.ok number) s

/-- Does something and then something else, whatever the first comes to. -/
def andFinally (act : Run α) (after : Run Unit) : Run α := do
  try
    let value ← act
    after
    return value
  catch halt =>
    after
    throw halt

def setStatus (status : Nat) : Run Unit := change ({ · with status := status })

def valueOf? (name : Text) : Run (Option Text) := do
  return ((← shell).bindings.lookup name).bind (·.value)

def setVariable (name : Text) (v : Variable) : Run Unit :=
  change fun s ↦ { s with bindings := (name, v) :: s.bindings.filter (·.1 != name) }

def isOn (letter : Char) : Run Bool := do
  return (← shell).options.contains letter

/-- Sets a variable unless it is read-only; whether it was set. -/
def assign (name value : Text) : Run Bool := do
  let old := (← shell).bindings.lookup name
  if (old.map (·.readOnly)).getD false then return false
  let exported := (old.map (·.exported)).getD false || (← isOn 'a')
  setVariable name ⟨some value, exported, false⟩
  if name = "OPTIND".toList then
    let index := (value.takeWhile Char.isDigit).foldl (fun n d ↦ n * 10 + (d.toNat - 0x30)) 0
    change ({ · with optionIndex := max index 1, optionOffset := none })
  return true

/-- Keeps what a variable is, to be put back at the end of the command. -/
def keep (name : Text) : Run Unit :=
  change fun s ↦
    match s.frames with
    | [] => s
    | frame :: frames =>
      if (frame.lookup name).isSome then s
      else { s with frames := ((name, s.bindings.lookup name) :: frame) :: frames }

/-- Does something after which the variables that it has kept are put back. -/
def locally (act : Run α) : Run α := do
  change fun s ↦ { s with frames := [] :: s.frames }
  andFinally act <| change fun s ↦
    let bindings := (s.frames.headD []).foldl
      (fun bindings (name, old) ↦
        let others := bindings.filter (·.1 != name)
        match old with
        | some v => (name, v) :: others
        | none => others)
      s.bindings
    { s with bindings, frames := s.frames.drop 1 }

/-- The files as they are seen from the directory of the interpreter. -/
def files : Run FileTree := do
  let tree : FileTree ← ask .files
  return { tree with workingDirectory := (← shell).directory }

def pieces : Nat := 1000000

def writePieces (descriptor : Nat) (text : Text) : Nat → Run (Except IoError Unit)
  | 0 => return .ok ()
  | fuel + 1 => do
    if text.isEmpty then return .ok ()
    match ← ask (.write descriptor text) with
    | .error cause => return .error cause
    | .ok count => writePieces descriptor (text.drop count) fuel

def write (descriptor : Nat) (text : Text) : Run (Except IoError Unit) :=
  writePieces descriptor text pieces

def complain (message : String) : Run Unit := do
  let name := (← shell).name
  let _ ← write 2 (name ++ ": ".toList ++ textOf message.toUTF8.toList ++ ['\n'])

def fail (message : String) : Run α := do
  complain message
  setStatus 2
  throw .failure

def print (text : Text) : Run Nat := do
  match ← write 1 text with
  | .ok () => return 0
  | .error _ =>
    complain "I/O error"
    return 1

def openFile (descriptor : Nat) (path : Text) (access : Access) : Run (Except IoError Unit) := do
  let s ← shell
  let mode := 0o666 - (0o666 &&& s.mask)
  ask (.openFile descriptor s.directory ⟨octetsOf path⟩ access mode)

def sleep (milliseconds : Nat) : Run Unit := do
  let now : Nat ← ask .clock
  ask (.sleepUntil (now + milliseconds))

def shown (text : Text) : String := Utf8.decodeLossy (octetsOf text)

end Run
end ShellDebugger.Script
