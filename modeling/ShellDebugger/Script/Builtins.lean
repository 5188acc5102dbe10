import ShellDebugger.Script.Builtins.Directory
import ShellDebugger.Script.Builtins.Naming
import ShellDebugger.Script.Builtins.Options
import ShellDebugger.Script.Builtins.Reading
import ShellDebugger.Script.Builtins.Signals
import ShellDebugger.Script.Condition
import ShellDebugger.Script.Format

/-!
# Commands of the interpreter itself

The commands that act on the interpreter, except for those that run others. Each has its arguments
and comes to a status.
-/

namespace ShellDebugger.Script.Builtins

open Run

def test (arguments : List Text) : Run Nat := do
  match Condition.eval (← files) arguments with
  | some answer => return if answer then 0 else 1
  | none => fail "test: not well formed"

/-- The levels of loops that a command names, of those that it is in. -/
def levelsOf (arguments : List Text) : Run Nat := do
  let n ← match arguments with
    | [] => pure 1
    | a :: _ => countOf a
  if n = 0 then fail "Illegal number: 0"
  return min n (← shell).loops

def statusOf (arguments : List Text) : Run (Option Nat) :=
  match arguments with
  | [] => return none
  | a :: _ => some <$> countOf a

/-- Runs a command of the interpreter, except for those that run others; `none` if there is no such
command. -/
def run? (name : String) (arguments : List Text) : Option (Run Nat) :=
  match name with
  | ":" | "true" | "hash" | "jobs" | "times" => some (return 0)
  | "false" => some (return 1)
  | "echo" => some (print (Format.echo arguments))
  | "printf" => some do
    match if arguments.head? = some ['-', '-'] then arguments.drop 1 else arguments with
    | [] => fail "printf: usage: printf format [arg ...]"
    | format :: rest =>
      let (text, status) := Format.printf format rest
      let printed ← print text
      unless status = 0 do complain "printf: bad conversion"
      return max status printed
  | "test" => some (test arguments)
  | "[" => some do
    if arguments.getLast? ≠ some [']'] then fail "[: missing ]" else test arguments.dropLast
  | "export" => some (mark "export" ({ · with exported := true }) (·.exported) arguments)
  | "readonly" => some (mark "readonly" ({ · with readOnly := true }) (·.readOnly) arguments)
  | "local" => some (makeLocal arguments)
  | "unset" => some (unset arguments)
  | "shift" => some (shift arguments)
  | "set" => some (set arguments)
  | "getopts" => some (getopts arguments)
  | "cd" => some (cd arguments)
  | "pwd" => some (pwd arguments)
  | "umask" => some (umask arguments)
  | "read" => some (read arguments)
  | "trap" => some (trap arguments)
  | "kill" => some (kill arguments)
  | "wait" => some (wait arguments)
  | "alias" => some (aliases arguments)
  | "unalias" => some (unalias arguments)
  | "type" => some (typeOf 0 arguments)
  | "exit" => some do throw (.exit (← statusOf arguments))
  | "return" => some do throw (.returned (← statusOf arguments))
  | "break" => some do
    match ← levelsOf arguments with
    | 0 => return 0
    | n =>
      setStatus 0
      throw (.leave n)
  | "continue" => some do
    match ← levelsOf arguments with
    | 0 => return 0
    | n =>
      setStatus 0
      throw (.again n)
  | _ => none

end ShellDebugger.Script.Builtins
