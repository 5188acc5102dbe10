import ShellDebugger.Session.ScriptPipe

/-!
# The loop that waits for a reader

How one looks whether a shell has opened its script. The write end of the pipe is tried; if nobody
reads, one looks whether the shell has exited; if it has not, one looks at the clock; and if there
is time left, one pauses and starts over. A failure names the pipe.
-/

namespace ShellDebugger

structure Sight where
  /-- What opening the write end without waiting comes to. -/
  opening : Except IoError Unit
  /-- The exit of the shell, if it is published. -/
  exit : Option Exit
  /-- The time since the first look was due. -/
  clock : Duration

namespace Sight

/-- Whether somebody reads. That nobody does is no failure. -/
def attempt (s : Sight) : Except IoError Bool :=
  match s.opening with
  | .ok _ => .ok true
  | .error cause => if cause = .refused .noReader then .ok false else .error cause

def poll (s : Sight) : Poll :=
  ⟨s.attempt, s.exit, s.clock⟩

end Sight

inductive Watch.Stage where
  /-- Try to open the write end. -/
  | trying
  /-- Look whether the shell has exited. -/
  | checking
  /-- Look at the clock. -/
  | timing
  /-- Pause before the next try. -/
  | pausing
  /-- Nothing: the write end is open. -/
  | opened
  /-- Nothing: it has failed. -/
  | failed (error : SessionError)
  deriving DecidableEq, Repr

structure Watch where
  /-- The script pipe. -/
  script : Path
  /-- How long the shell has. -/
  timeout : Duration
  /-- The number of the look at hand. The first look has number zero. -/
  look : Nat
  /-- How often the write end was tried. -/
  tries : Nat
  stage : Watch.Stage
  deriving DecidableEq, Repr

namespace Watch

def ofScript (script : Path) (timeout : Duration) : Watch :=
  ⟨script, timeout, 0, 0, .trying⟩

def fail (w : Watch) (reason : OpenFailure) : Watch :=
  { w with stage := .failed (.pipeNotOpened w.script reason) }

/-- One action of the loop, given what there is to be seen at each look. -/
def step (sights : Nat → Sight) (w : Watch) : Watch :=
  let sight := sights w.look
  match w.stage with
  | .trying =>
    let w := { w with tries := w.tries + 1 }
    match sight.attempt with
    | .ok true => { w with stage := .opened }
    | .ok false => { w with stage := .checking }
    | .error cause => w.fail (.refused cause)
  | .checking =>
    match sight.exit with
    | some exit => w.fail (.exited exit)
    | none => { w with stage := .timing }
  | .timing =>
    if w.timeout.milliseconds ≤ sight.clock.milliseconds then w.fail (.timedOut w.timeout)
    else { w with stage := .pausing }
  | .pausing => { w with look := w.look + 1, stage := .trying }
  | .opened | .failed _ => w

def after (sights : Nat → Sight) (script : Path) (timeout : Duration) : Nat → Watch
  | 0 => ofScript script timeout
  | actions + 1 => step sights (after sights script timeout actions)

def hasReturned (w : Watch) : Bool :=
  match w.stage with
  | .opened | .failed _ => true
  | .trying | .checking | .timing | .pausing => false

end Watch
end ShellDebugger
