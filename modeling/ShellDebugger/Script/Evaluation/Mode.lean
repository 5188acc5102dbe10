import ShellDebugger.Script.Reader
import ShellDebugger.Script.Shell

/-!
# How commands are run

What the commands around a command mean for it, and how the next command of a script is read.
-/

namespace ShellDebugger.Script.Evaluation

open Run

def fuel : Nat := 1000000

def deepestCall : Nat := 1000

def overflow {α : Type} : Run α := do
  let (self, _) ← ask .identity
  let _ ← ask (.send self 11)
  quit 139

structure Mode where
  /-- Whether its status is looked at, so that a failure is no error. -/
  tested : Bool
  /-- Whether the process has nothing more to do after it. -/
  isLast : Bool
  deriving DecidableEq, Repr

/-- How a command is run of which nothing is known. -/
def Mode.plain : Mode := ⟨false, false⟩

/-- How a part of a command is run that has something behind it. -/
def Mode.inside (m : Mode) : Mode := { m with isLast := false }

/-- How a command is run whose status is looked at. -/
def Mode.test : Mode := ⟨true, false⟩

/-- Ends the script if it ends on errors and the last command, which nobody tests, has failed. -/
def checkStatus (m : Mode) : Run Unit := do
  let s ← shell
  if s.status ≠ 0 ∧ !m.tested ∧ s.options.contains 'e' then throw (.exit (some s.status))

inductive Upcoming where
  /-- Nothing but blanks. -/
  | nothing
  /-- The start of a command. -/
  | part
  /-- A command, and what follows it. The flag says whether the script ends with it. -/
  | command (c : Command) (rest : Text) (ends : Bool)

def readNext (text : Text) (isWhole : Bool) : Run Upcoming := do
  let s ← shell
  let read (text : Text) : Except Fault (Option Command × Source) :=
    Read.next.run ⟨text, isWhole, [], [], s.nextDocument, s.aliases, [], none⟩
  let first := read text
  let (result, ends) := match first, isWhole with
    | .error .incomplete, true => (read (text ++ ['\n']), true)
    | result, _ => (result, false)
  match result with
  | .error .incomplete =>
    if isWhole then fail "Syntax error: end of file unexpected" else return .part
  | .error .wrong => fail "Syntax error"
  | .ok (none, _) => return .nothing
  | .ok (some c, source) =>
    change fun s ↦
      { s with
        nextDocument := source.nextNumber
        documents := source.documents ++ s.documents }
    return .command c source.rest ends

end ShellDebugger.Script.Evaluation
