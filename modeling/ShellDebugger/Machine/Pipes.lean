import ShellDebugger.Machine.Basic

/-!
# The script pipes of a process

The pipes that one process has made on a machine whose directories it shares with others. The
process makes pipes, removes them and drops them, and in between anybody may put files where the
names to come will be, or take files away.
-/

namespace ShellDebugger

/-- A machine and the script pipes that the process has made on it, first made first. -/
structure Pipes where
  machine : Machine
  made : List ScriptPipe

namespace Pipes

inductive Action where
  /-- The process makes a pipe in a directory. -/
  | create (directory : Path)
  /-- The process removes the pipe with an index, which is dropped after that. -/
  | remove (index : Nat)
  /-- The process drops the pipe with an index. -/
  | drop (index : Nat)
  /-- Somebody puts a node at a path, instead of what stands there. -/
  | install (path : Path) (node : Node)
  /-- Somebody takes away what stands at a path. -/
  | discard (path : Path)

def keep (s : Pipes) : Except SessionError ScriptPipe × Machine →
    Except SessionError ScriptPipe × Pipes
  | (.ok pipe, m) => (.ok pipe, ⟨m, s.made ++ [pipe]⟩)
  | (.error e, m) => (.error e, { s with machine := m })

def create (s : Pipes) (directory : Path) : Except SessionError ScriptPipe × Pipes :=
  s.keep (s.machine.carryOut (ScriptPipe.createIn directory s.machine.processId))

/-- Removes the file of the pipe with an index, unless that was done before. -/
def removeFile (s : Pipes) (index : Nat) : Pipes :=
  match s.made[index]? with
  | none => s
  | some pipe =>
    let (pipe, m) := s.machine.carryOut pipe.remove
    ⟨m, s.made.set index pipe⟩

def changeFiles (s : Pipes) (change : FileTree → FileTree) : Pipes :=
  { s with machine := { s.machine with files := change s.machine.files } }

def act (s : Pipes) : Action → Pipes
  | .create directory => (s.create directory).2
  | .remove index => (s.removeFile index).removeFile index
  | .drop index => s.removeFile index
  | .install path node => s.changeFiles (·.install path node)
  | .discard path => s.changeFiles (·.discard path)

def run (s : Pipes) (actions : List Action) : Pipes :=
  actions.foldl act s

/-- The calls that the process makes to remove the file of the pipe with an index. -/
def removalCalls (s : Pipes) (index : Nat) : List Plan.Event :=
  match s.made[index]? with
  | none => []
  | some pipe => pipe.remove.traceWith Machine.answer s.machine

def calls (s : Pipes) : Action → List Plan.Event
  | .create directory =>
    (ScriptPipe.createIn directory s.machine.processId).traceWith Machine.answer s.machine
  | .remove index => s.removalCalls index ++ (s.removeFile index).removalCalls index
  | .drop index => s.removalCalls index
  | .install .. | .discard _ => []

/-- The calls that the process makes in actions, one after another. -/
def callsOf (s : Pipes) : List Action → List Plan.Event
  | [] => []
  | action :: rest => s.calls action ++ (s.act action).callsOf rest

end Pipes
end ShellDebugger
