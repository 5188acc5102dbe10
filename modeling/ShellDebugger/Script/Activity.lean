import ShellDebugger.Host.FileTree
import ShellDebugger.Script.Grammar

/-!
# Activities

What a process does, as data: it makes requests to the world that it runs in, starts processes, and
ends with a status. A `Request` has an answer of its own type, and what the process does next
depends on it. Nothing here says how requests are answered; `World.answer` does.
-/

namespace ShellDebugger.Script

def setEntry {α β : Type} [BEq α] (key : α) (value : β) (entries : List (α × β)) :
    List (α × β) :=
  (key, value) :: entries.filter (·.1 != key)

def dropEntry {α β : Type} [BEq α] (key : α) (entries : List (α × β)) : List (α × β) :=
  entries.filter (·.1 != key)

/-- The first descriptor that programs do not inherit. -/
def firstKept : Nat := 10

inductive Access where
  /-- To be read. -/
  | read
  /-- To be written, from nothing. -/
  | write
  /-- To be written, from nothing, unless a regular file stands there. -/
  | create
  /-- To be written behind what there is. -/
  | append
  /-- To be read and written. -/
  | update
  deriving DecidableEq, Repr, Inhabited

def Access.writes : Access → Bool
  | .read => false
  | _ => true

inductive Disposition where
  /-- What it does to a process that takes no care of it. -/
  | usual
  /-- Nothing. -/
  | ignored
  /-- The process is told when it asks. -/
  | caught
  deriving DecidableEq, Repr, Inhabited

inductive Outcome where
  | exited (status : Nat)
  | killed (signal : Nat)
  deriving DecidableEq, Repr, Inhabited

/-- The status by which an interpreter knows an outcome. -/
def Outcome.status : Outcome → Nat
  | .exited status => status
  | .killed signal => 128 + signal

/-- A request of a process. Descriptors and processes are known by their numbers. -/
inductive Request where
  /-- What files there are. -/
  | files
  /-- Open a file as a descriptor, by a path that is seen from a directory. -/
  | openFile (descriptor : Nat) (directory : Place) (path : Path) (access : Access) (mode : Nat)
  /-- Rename a file, by paths that are seen from a directory. -/
  | rename (directory : Place) (source target : Path)
  /-- Make a pipe. -/
  | pipe
  /-- Make a descriptor from which a text is read. -/
  | document (descriptor : Nat) (text : Text)
  /-- Make a descriptor lead to where another one leads. -/
  | copy (source target : Nat)
  /-- Make a free descriptor that no program inherits lead to where another one leads. -/
  | save (descriptor : Nat)
  | close (descriptor : Nat)
  /-- Take up to `limit` octets, and if only a line is wanted, none after a line feed. -/
  | read (descriptor limit : Nat) (lineOnly : Bool)
  /-- Go back in an open file. -/
  | goBack (descriptor count : Nat)
  /-- Write some of a text. -/
  | write (descriptor : Nat) (text : Text)
  /-- Does the standard output append to the file that a descriptor reads? -/
  | feedsItself (descriptor : Nat)
  /-- The time. -/
  | clock
  | sleepUntil (time : Nat)
  /-- The number of the process and that of its parent. -/
  | identity
  /-- The signals that were caught since the last time. -/
  | caught
  | handle (signal : Nat) (disposition : Disposition)
  /-- The signals that are ignored. -/
  | ignored
  | send (process signal : Nat)
  /-- Wait for the end of a process, or, if a signal may interrupt that, for one that is caught. -/
  | await (process : Nat) (interruptible : Bool)
  /-- Become a program: close what no program inherits, and catch nothing. -/
  | become
  deriving Inhabited

abbrev Request.Answer : Request → Type
  | .files => FileTree
  | .openFile .. => Except IoError Unit
  | .rename .. => Except IoError Unit
  | .pipe => Nat × Nat
  | .document .. => Unit
  | .copy .. => Bool
  | .save _ => Option Nat
  | .close _ => Unit
  | .read .. => Except IoError Text
  | .goBack .. => Unit
  | .write .. => Except IoError Nat
  | .feedsItself _ => Bool
  | .clock => Nat
  | .sleepUntil _ => Unit
  | .identity => Nat × Nat
  | .caught => List Nat
  | .handle .. => Unit
  | .ignored => List Nat
  | .send .. => Bool
  | .await .. => Option Outcome
  | .become => Unit

inductive Activity where
  /-- It ends with a status. -/
  | exit (status : Nat)
  /-- It makes a request and goes on with the answer. -/
  | ask (request : Request) (next : request.Answer → Activity)
  /-- It starts a process and goes on with its number. -/
  | fork (child : Activity) (next : Nat → Activity)

instance : Inhabited Activity := ⟨.exit 0⟩

end ShellDebugger.Script
