import ShellDebugger.Host.Plan
import ShellDebugger.Session.Error

/-!
# Script pipes

The named pipe through which a shell gets its script. Its name is made of the number of the
debugger's process and a number that the process draws for no other pipe; a name that is taken is
passed over for the next one, a number of times.

The write end can be opened as soon as the shell has opened the other end. Until then one looks
again and again, and gives up when opening fails, when the shell has exited, or when the time is
over; of several of these at one look, the first in this order counts, and a shell that reads counts
before all.
-/

namespace ShellDebugger

structure ScriptPipe where
  path : Path
  /-- Whether it was removed. -/
  removed : Bool
  deriving DecidableEq, Repr

namespace ScriptPipe

/-- The most names that are tried for one pipe. -/
def attempts : Nat := 16

/-- The permissions of a script pipe: the owner may read and write. -/
def mode : Nat := 0o600

def name (processId : Nat) (number : UInt64) : String :=
  s!"buggywhip-{processId}-{number}"

def pathOf (directory : Path) (processId : Nat) (number : UInt64) : Path :=
  directory / Path.ofString (name processId number)

/-- Tries names up to a number of times. The path of the last one tried is reported when all are
taken. -/
def tryNames (directory : Path) (processId : Nat) (last : Path) :
    Nat → Plan (Except SessionError ScriptPipe)
  | 0 => return .error (.pipeNotMade last (.refused .nameTaken))
  | tries + 1 => do
    let number ← Plan.call .drawNumber
    let path := pathOf directory processId number
    match ← Plan.call (.makePipe path) with
    | .ok _ => return .ok ⟨path, false⟩
    | .error (.refused errno) =>
      if errno = .nameTaken then tryNames directory processId path tries
      else return .error (.pipeNotMade path (.refused errno))
    | .error cause => return .error (.pipeNotMade path cause)

/-- Makes a pipe of a new name in a directory. -/
def createIn (directory : Path) (processId : Nat) : Plan (Except SessionError ScriptPipe) :=
  tryNames directory processId ⟨[]⟩ attempts

/-- Removes a pipe, unless it was removed before. If the system refuses that, the pipe stays, and
nothing more is done about it. -/
def remove (pipe : ScriptPipe) : Plan ScriptPipe :=
  if pipe.removed then return pipe
  else do
    let _ ← Plan.call (.unlink pipe.path)
    return { pipe with removed := true }

end ScriptPipe

/-- What a look decides, if it decides anything. -/
def Poll.verdict (timeout : Duration) (poll : Poll) : Option (Except OpenFailure Unit) :=
  match poll.attempt with
  | .ok true => some (.ok ())
  | .error cause => some (.error (.refused cause))
  | .ok false =>
    match poll.exit with
    | some exit => some (.error (.exited exit))
    | none =>
      if timeout.milliseconds ≤ poll.clock.milliseconds then some (.error (.timedOut timeout))
      else none

/-- What the first look decides that decides anything. -/
def Poll.settle (timeout : Duration) (polls : List Poll) : Option (Except OpenFailure Unit) :=
  polls.findSome? (Poll.verdict timeout)

end ShellDebugger
