import ShellDebugger.Host.Plan
import ShellDebugger.Session.Error

/-!
# Children

A child process and what is known of its end. An exit is published once: after it has been seen it
is remembered, and the system is not asked again. A captured output stream is there to be taken
once.
-/

namespace ShellDebugger

structure Child where
  id : ChildId
  /-- What was started. -/
  executable : Path
  /-- The output streams that are captured and that nobody has taken. -/
  streams : PerStream Bool
  /-- The exit, once it has been seen. -/
  exit : Option Exit
  deriving DecidableEq, Repr

namespace Child

/-- Starts a process and captures some of its output streams. -/
def spawn (executable : Path) (arguments : List Bytes) (captured : PerStream Bool) :
    Plan (Except SessionError Child) := do
  match ← Plan.call (.spawn executable arguments captured) with
  | .ok id => return .ok ⟨id, executable, captured, none⟩
  | .error cause => return .error (.notSpawned executable cause)

/-- Takes a captured output stream: whether it was there to be taken. -/
def take (child : Child) (stream : Stream) : Bool × Child :=
  (child.streams.get stream,
    { child with streams := child.streams.update (fun _ ↦ false) stream })

def observe (child : Child) : Plan Child :=
  match child.exit with
  | some _ => return child
  | none => do return { child with exit := ← Plan.call (.exitOf child.id) }

def kill (child : Child) : Plan Child := do
  let child ← child.observe
  if child.exit.isNone then Plan.call (.kill child.id)
  return child

def closeInput (child : Child) : Plan Unit :=
  Plan.call (.closeInput child.id)

def wait (child : Child) : Plan Child :=
  match child.exit with
  | some _ => return child
  | none => do return { child with exit := some (← Plan.call (.awaitExit child.id)) }

/-- Waits for the exit of the child. If there is a limit and the child outlasts it, the child is
killed. -/
def waitFor (child : Child) (limit : Option Duration) : Plan Child :=
  match child.exit, limit with
  | some _, _ => return child
  | none, none => child.wait
  | none, some limit => do
    match ← Plan.call (.awaitExitFor child.id limit) with
    | some exit => return { child with exit := some exit }
    | none => (← child.kill).wait

/-- Waits for the feeder of the child to end. If there is a limit and the feeder outlasts it, the
child is killed. -/
def joinFeeder (child : Child) (limit : Option Duration) : Plan Child :=
  match limit with
  | none => do
    Plan.call (.joinFeeder child.id)
    return child
  | some limit => do
    let ended : Bool ← Plan.call (.joinFeederFor child.id limit)
    if ended then return child
    let child ← child.kill
    Plan.call (.joinFeeder child.id)
    return child

def joinRelays (child : Child) (captured : PerStream Bool) : Plan Unit := do
  if captured.stdout then let _ ← Plan.call (.joinRelay child.id .stdout)
  if captured.stderr then let _ ← Plan.call (.joinRelay child.id .stderr)

end Child
end ShellDebugger
