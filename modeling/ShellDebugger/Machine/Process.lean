import ShellDebugger.Host.Path
import ShellDebugger.Script.Evaluation
import ShellDebugger.Script.System

/-!
# Processes

A process that was started, as what it was started with and what has come to it since: lines of
its script, the ends of its script and of its input. How far it gets with these by some time is
computed from its start, so nothing but its end has to be kept.
-/

namespace ShellDebugger

structure Process where
  image : Image
  /-- The name it was started by. -/
  executable : Path
  /-- The file that was started. It is there for the process whatever becomes of it. -/
  file : Place × Node
  arguments : List Bytes
  /-- The time of its start in milliseconds. -/
  start : Nat
  /-- Where its script pipe stands. -/
  script : Option Place
  /-- What was fed to its script pipe, last piece first. -/
  fed : List Bytes
  /-- Whether no more will be fed. -/
  scriptClosed : Bool
  inputClosed : Bool
  /-- How it ended. -/
  exit : Option Exit
  /-- Whether its end is known to those who look. -/
  published : Bool
  /-- What it printed, once it has ended. -/
  printed : PerStream Bytes
  /-- The end of what it printed, as far as nobody had time to pass that on. -/
  late : PerStream Bytes

namespace Process

def pipeRoom : Nat := 65536

def feed (p : Process) : Bytes :=
  p.fed.reverse.flatten

/-- How far a process gets, together with those that it starts. -/
structure Progress where
  system : Script.System

namespace Progress

def exit (progress : Progress) : Option Exit :=
  progress.system.ended.map fun
    | (_, .exited status) => Exit.code (UInt8.ofNat status)
    | (_, .killed signal) => .reaped ⟨UInt32.ofNat signal⟩

/-- The time of its end, or of the last thing that has happened. -/
def time (progress : Progress) : Nat :=
  (progress.system.ended.map (·.1)).getD progress.system.world.clock

def scriptOpened (progress : Progress) : Option Nat :=
  progress.system.world.scriptOpened

def scriptMoved (progress : Progress) : Option Nat :=
  progress.system.world.scriptMoved

/-- What was printed, as far as the times of its pieces count. -/
def printedWhen (progress : Progress) (counts : Nat → Bool) : PerStream Bytes :=
  let octets (pieces : List Script.Piece) : Bytes :=
    ((pieces.filter (counts ·.time)).reverse.map (Script.octetsOf ·.text)).flatten
  let outputs := progress.system.world.outputs
  ⟨octets outputs.stdout, octets outputs.stderr⟩

def printed (progress : Progress) : PerStream Bytes :=
  progress.printedWhen fun _ ↦ true

/-- What was printed at the moment at which the last process ended, if somebody has waited for that
since an earlier time. -/
def late (progress : Progress) (since : Nat) : PerStream Bytes :=
  let last := progress.system.world.clock
  let isAwaited := progress.system.running.isEmpty && since < last
  progress.printedWhen fun time ↦ isAwaited && time == last

/-- Whether all that was fed is read or in the pipe. -/
def isFed (progress : Progress) : Bool :=
  progress.exit.isSome || progress.system.world.script.length ≤ pipeRoom

/-- What becomes of the processes if the first is killed at a time. -/
def killed (progress : Progress) (time : Nat) : Progress :=
  ⟨progress.system.kill time⟩

end Progress

def shell (p : Process) (environment : Environment) (files : FileTree) (processId parentId : Nat) :
    Script.Shell where
  name := Script.textOf p.executable.octets
  processId
  parentId
  bindings := environment.bindings.map fun (name, value) ↦
    (Script.textOf (Utf8.encode name), ⟨some (Script.textOf value), true, false⟩)
  directory := files.workingDirectory

def view (p : Process) (files : FileTree) : FileTree :=
  files.put p.file.1 p.file.2

/-- The files that are left, given what the process has made of its view. -/
def unview (p : Process) (files view : FileTree) : FileTree :=
  match files.node? p.file.1 with
  | some node => view.put p.file.1 node
  | none => view.erase p.file.1

def world (p : Process) (files : FileTree) : Script.World where
  files := p.view files
  scriptPlace := p.script
  script := Script.textOf p.feed
  scriptClosed := p.scriptClosed
  scriptOpened := none
  scriptMoved := none
  inputClosed := p.inputClosed
  clock := p.start
  outputs := ⟨[], []⟩
  openFiles := []
  pipes := []
  tasks := []
  nextNumber := 0
  nextTask := 0

/-- How far a process gets by a time, or in the end if no time is given. -/
def progress (p : Process) (files : FileTree) (environment : Environment)
    (processId parentId : Nat) (deadline : Option Nat) : Progress :=
  let arguments := (p.image.arguments ++ p.arguments).map Script.textOf
  let body := Script.Evaluation.program p.image.program (Script.textOf p.executable.octets)
    arguments Script.Evaluation.fuel
  let activity := Script.Run.activity body (p.shell environment files processId parentId)
  ⟨(Script.System.start (p.world files) processId parentId activity).run deadline⟩

def ended (p : Process) (exit : Exit) (progress : Progress) (time : Nat) : Process :=
  { p with exit := some exit, printed := progress.printed, late := progress.late time }

end Process
end ShellDebugger
