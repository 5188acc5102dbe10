import ShellDebugger.Console.Loop
import ShellDebugger.Schedule
import ShellDebugger.Stream.Channel

/-!
# The line reader

The line editor blocks, so it has a thread of its own. The command loop asks for one line at a time
through a channel of requests, and the editor answers each request through a channel for one
outcome. The editor is built on its thread; if that fails, the reason is its only outcome.
-/

namespace ShellDebugger.Console

/-- What the thread of the editor is about to do. -/
inductive LineReader.Editor where
  | building
  /-- Wait for a request. -/
  | listening
  /-- Prompt the operator. -/
  | prompting
  /-- Send an outcome, after which it listens again or ends. -/
  | answering (outcome : Reading) (goesOn : Bool)
  /-- Let go of the channels. -/
  | leaving
  | ended
  deriving DecidableEq, Repr

/-- The editor and the loop with what is between them. -/
structure LineReader where
  /-- Why the editor cannot be built, if it cannot. -/
  defect : Option String
  /-- What prompting the operator is going to give, after which the lines have ended. -/
  operator : List Reading
  editor : LineReader.Editor
  /-- The requests that wait. -/
  requests : Nat
  outcomes : Channel Reading
  /-- Whether the loop has asked for a line and not got it. -/
  asking : Bool
  /-- What the editor has produced, first produced first. -/
  produced : List Reading
  /-- What the loop got, first got first. -/
  returned : List Reading
  deriving DecidableEq, Repr

namespace LineReader

def ofOperator (defect : Option String) (operator : List Reading) : LineReader :=
  ⟨defect, operator, .building, 0, .ofCapacity 1, false, [], []⟩

inductive Party where
  | editor
  | loop
  deriving DecidableEq, Repr

def produce (r : LineReader) (outcome : Reading) (goesOn : Bool) : LineReader :=
  { r with editor := .answering outcome goesOn, produced := r.produced ++ [outcome] }

/-- One action of the editor, `none` if it has to wait or has ended. -/
def edit (r : LineReader) : Option LineReader :=
  match r.editor with
  | .building =>
    match r.defect with
    | some reason => some (r.produce (.failed reason) false)
    | none => some { r with editor := .listening }
  | .listening =>
    if r.requests = 0 then none
    else some { r with editor := .prompting, requests := r.requests - 1 }
  | .prompting =>
    some ({ r with operator := r.operator.tail }.produce (r.operator.headD .ended) true)
  | .answering outcome goesOn =>
    match r.outcomes.send outcome with
    | .accepted outcomes =>
      some { r with editor := if goesOn then .listening else .leaving, outcomes := outcomes }
    | .full => none
    | .refused => some { r with editor := .leaving }
  | .leaving =>
    some { r with editor := .ended, requests := 0, outcomes := r.outcomes.dropSender }
  | .ended => none

def give (r : LineReader) (reading : Reading) : LineReader :=
  { r with asking := false, returned := r.returned ++ [reading] }

/-- One action of the loop, `none` if it has to wait. It asks for a line, or it waits for the one
that it asked for. If nobody hears it, the lines have ended for it. -/
def ask (r : LineReader) : Option LineReader :=
  if r.asking then
    match r.outcomes.receive with
    | .item reading outcomes => some ({ r with outcomes := outcomes }.give reading)
    | .empty => none
    | .closed => some (r.give .ended)
  else if r.editor = .ended then some (r.give .ended)
  else some { r with asking := true, requests := r.requests + 1 }

/-- One action of a party, `none` if it has to wait or has ended. -/
def act : Party → LineReader → Option LineReader
  | .editor => edit
  | .loop => ask

end LineReader
end ShellDebugger.Console
