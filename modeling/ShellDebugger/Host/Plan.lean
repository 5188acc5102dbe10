import ShellDebugger.Host.Exit
import ShellDebugger.Host.IoError
import ShellDebugger.Host.Path
import ShellDebugger.Host.Time

/-!
# Plans

What a program asks of the operating system and of its own tasks, as data. A `Call` is one request
and `Call.Answer` is what may come back; a `Plan` is a program that makes calls one after another,
each depending on the answers before it. Nothing is assumed about the answers: `Plan.Runs` relates
a plan to every trace of calls and answers that it can make, whatever the system does, and
`Plan.runWith` carries a plan out against one system.
-/

namespace ShellDebugger

/-- A child process, by the order in which the children were spawned. -/
abbrev ChildId := Nat

inductive Stream where
  | stdout
  | stderr
  deriving DecidableEq, Repr

structure PerStream (α : Type) where
  stdout : α
  stderr : α
  deriving DecidableEq, Repr

def PerStream.get {α : Type} (both : PerStream α) : Stream → α
  | .stdout => both.stdout
  | .stderr => both.stderr

def PerStream.update {α : Type} (both : PerStream α) (f : α → α) : Stream → PerStream α
  | .stdout => { both with stdout := f both.stdout }
  | .stderr => { both with stderr := f both.stderr }

@[simp] theorem PerStream.get_update {α : Type} (both : PerStream α) (f : α → α)
    (stream other : Stream) :
    (both.update f stream).get other =
      if stream = other then f (both.get other) else both.get other := by
  cases stream <;> cases other <;> rfl

/-- One look at a shell that is to open its script. -/
structure Poll where
  /-- The attempt to open the write end: whether somebody reads. -/
  attempt : Except IoError Bool
  /-- The exit of the shell, if it is published. -/
  exit : Option Exit
  /-- The time since the first look was due. -/
  clock : Duration

inductive Call where
  /-- Is the file there, and is it a directory? -/
  | inspect (path : Path)
  /-- Read a file to its end. -/
  | read (path : Path)
  /-- Draw the next number of the process. -/
  | drawNumber
  /-- Make a named pipe. -/
  | makePipe (path : Path)
  /-- Remove a file. -/
  | unlink (path : Path)
  /-- Start a process, with its input piped and the named streams captured. -/
  | spawn (executable : Path) (arguments : List (List UInt8)) (captured : PerStream Bool)
  /-- Start to relay an output stream of a child. -/
  | startRelay (child : ChildId) (stream : Stream)
  /-- Look again and again whether a child has opened its script, until that is decided or the time
  is over. -/
  | watch (child : ChildId) (script : Path) (timeout : Duration)
  /-- Has the exit of a child been published? -/
  | exitOf (child : ChildId)
  /-- Start the feeder of a child on the script that it reads. Any capacity will do here; where it
  is above what a channel can have, the debugger ends instead, and nothing is answered. -/
  | startFeeder (child : ChildId) (script : Path) (capacity : Nat)
  /-- Send a line to the feeder of a child, waiting while its queue is full. -/
  | send (child : ChildId) (line : String)
  /-- Drop the sending end of a feeder's queue. -/
  | dropSender (child : ChildId)
  /-- Wait for a feeder to end. -/
  | joinFeeder (child : ChildId)
  /-- Wait for a feeder to end, for a while. -/
  | joinFeederFor (child : ChildId) (limit : Duration)
  /-- Close the input of a child. -/
  | closeInput (child : ChildId)
  /-- Send the kill signal to a child. -/
  | kill (child : ChildId)
  /-- Wait for the exit of a child. -/
  | awaitExit (child : ChildId)
  /-- Wait for the exit of a child, for a while. -/
  | awaitExitFor (child : ChildId) (limit : Duration)
  /-- Wait for a relay to end and abandon it if it does not. -/
  | joinRelay (child : ChildId) (stream : Stream)

def Call.Answer : Call → Type
  | .inspect _ => Except IoError Bool
  | .read _ => Except IoError (List UInt8)
  | .drawNumber => UInt64
  | .makePipe _ => Except IoError Unit
  | .unlink _ => Except IoError Unit
  | .spawn .. => Except IoError ChildId
  | .startRelay .. => Unit
  | .watch .. => List Poll
  | .exitOf _ => Option Exit
  | .startFeeder .. => Unit
  | .send .. => Bool
  | .dropSender _ => Unit
  | .joinFeeder _ => Unit
  | .joinFeederFor .. => Bool
  | .closeInput _ => Unit
  | .kill _ => Unit
  | .awaitExit _ => Exit
  | .awaitExitFor .. => Option Exit
  | .joinRelay .. => Bool

/-- A program that makes calls and ends with a value. -/
inductive Plan (α : Type) : Type where
  | done (value : α)
  | ask (call : Call) (next : call.Answer → Plan α)

namespace Plan

variable {α β : Type}

def call (c : Call) : Plan c.Answer :=
  .ask c .done

def andThen : Plan α → (α → Plan β) → Plan β
  | .done value, f => f value
  | .ask c next, f => .ask c fun answer ↦ andThen (next answer) f

instance : Monad Plan where
  pure := .done
  bind := andThen

structure Event where
  call : Call
  answer : call.Answer

/-- The traces of a plan and the values that it ends with, for all answers that may come. -/
inductive Runs : Plan α → List Event → α → Prop
  | done (value : α) : Runs (.done value) [] value
  | ask {c : Call} {next : c.Answer → Plan α} (answer : c.Answer) {trace : List Event} {value : α} :
      Runs (next answer) trace value → Runs (.ask c next) (⟨c, answer⟩ :: trace) value

/-- Carries a plan out against a system that answers each call as it is made: the value and the
system after it. -/
def runWith {σ : Type} (answer : (c : Call) → σ → σ × c.Answer) : Plan α → σ → α × σ
  | .done value, system => (value, system)
  | .ask c next, system =>
    let (system, value) := answer c system
    runWith answer (next value) system

/-- The calls that are made when a plan is carried out against a system, with their answers. -/
def traceWith {σ : Type} (answer : (c : Call) → σ → σ × c.Answer) : Plan α → σ → List Event
  | .done _, _ => []
  | .ask c next, system =>
    let (system, value) := answer c system
    ⟨c, value⟩ :: traceWith answer (next value) system

/-- Carrying a plan out is one of its runs. -/
theorem runs_runWith {σ : Type} (answer : (c : Call) → σ → σ × c.Answer) (plan : Plan α)
    (system : σ) :
    Runs plan (traceWith answer plan system) (runWith answer plan system).1 := by
  induction plan generalizing system with
  | done value => exact .done value
  | ask c next ih => exact .ask (answer c system).2 (ih _ _)

end Plan
end ShellDebugger
