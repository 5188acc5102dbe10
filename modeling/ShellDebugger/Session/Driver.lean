import ShellDebugger.Session.Child
import ShellDebugger.Session.ScriptPipe
import ShellDebugger.Settings.Basic

/-!
# The session driver

A driver records a source and holds at most one session: a shell, the pipe it reads its script
from, the feeder that writes to it and the relays of its output. A start tears the session down
that is there and makes another; what a failed start has made, it takes back. A closed driver
starts nothing any more.
-/

namespace ShellDebugger

structure Session where
  pipe : ScriptPipe
  child : Child
  deriving DecidableEq, Repr

structure Driver where
  settings : SessionSettings
  /-- The number of the debugger's process. -/
  processId : Nat
  /-- The output streams that have somewhere to go. -/
  sinks : PerStream Bool
  source : Option Path
  session : Option Session
  closed : Bool
  deriving DecidableEq, Repr

inductive DriverState where
  /-- Nothing is loaded and no shell was started. -/
  | unloaded
  /-- A source is loaded and no shell was started. -/
  | loaded
  /-- A shell runs. -/
  | running
  /-- The shell has exited on its own. -/
  | exited (exit : Exit)
  | closed
  deriving DecidableEq, Repr

def DriverState.describe : DriverState → String
  | .unloaded => "Unloaded"
  | .loaded => "Loaded"
  | .running => "Running"
  | .exited exit => s!"Exited({exit.describe})"
  | .closed => "Closed"

namespace Driver

def ofSettings (settings : SessionSettings) (processId : Nat) (sinks : PerStream Bool) : Driver :=
  ⟨settings, processId, sinks, none, none, false⟩

/-- Checks that a path can be a source: a file that is there and is no directory. -/
def checkSource (path : Path) : Plan (Except SessionError Unit) := do
  match ← Plan.call (.inspect path) with
  | .ok false => return .ok ()
  | .ok true => return .error (.badSource path .isDirectory)
  | .error cause =>
    if cause = .refused .noEntry then return .error (.noSource path)
    else return .error (.badSource path cause)

def load (d : Driver) (path : Path) : Plan (Except SessionError Unit × Driver) := do
  if d.closed then return (.error .closed, d)
  match ← checkSource path with
  | .ok _ => return (.ok (), { d with source := some path })
  | .error e => return (.error e, d)

/-- Takes a session apart: the feeder writes what it has and closes the script, the shell's input
is closed, the shell ends, the relays run dry, and the pipe goes. -/
def teardown (d : Driver) (session : Session) : Plan Unit := do
  let limit := d.settings.terminateTimeout
  Plan.call (.dropSender session.child.id)
  let child ← session.child.joinFeeder limit
  child.closeInput
  let child ← child.waitFor limit
  child.joinRelays d.sinks
  let _ ← session.pipe.remove

/-- The driver after its session, if any, is torn down. -/
def withoutSession (d : Driver) : Plan Driver := do
  if let some session := d.session then d.teardown session
  return { d with session := none }

/-- Starts a relay on an output stream of a shell, if the stream has somewhere to go. -/
def startRelay (d : Driver) (child : Child) (stream : Stream) : Plan Child := do
  if d.sinks.get stream then
    let (taken, child) := child.take stream
    if taken then Plan.call (.startRelay child.id stream)
    return child
  else return child

/-- Starts a relay on each output stream of a shell that has somewhere to go. -/
def startRelays (d : Driver) (child : Child) : Plan Child := do
  d.startRelay (← d.startRelay child .stdout) .stderr

/-- Gives up a shell that does not read its script. -/
def abandon (d : Driver) (child : Child) : Plan Unit := do
  child.closeInput
  let child ← (← child.kill).wait
  child.joinRelays d.sinks

/-- Starts a shell on a new script pipe and waits until it reads. -/
def startSession (d : Driver) : Plan (Except SessionError Session) := do
  match ← ScriptPipe.createIn d.settings.pipeDirectory d.processId with
  | .error e => return .error e
  | .ok pipe =>
    match ← Child.spawn d.settings.shell [pipe.path.octets] d.sinks with
    | .error e =>
      let _ ← pipe.remove
      return .error e
    | .ok child =>
      let child ← d.startRelays child
      let timeout := d.settings.openTimeout
      let polls ← Plan.call (.watch child.id pipe.path timeout)
      match (Poll.settle timeout polls).getD (.error (.timedOut timeout)) with
      | .ok _ =>
        Plan.call (.startFeeder child.id pipe.path d.settings.feedCapacity)
        return .ok ⟨pipe, child⟩
      | .error reason =>
        d.abandon child
        let _ ← pipe.remove
        return .error (.pipeNotOpened pipe.path reason)

/-- Starts a session, after the one that is there has been torn down. -/
def start (d : Driver) : Plan (Except SessionError Unit × Driver) := do
  if d.closed then return (.error .closed, d)
  let d ← d.withoutSession
  match ← d.startSession with
  | .ok session => return (.ok (), { d with session := some session })
  | .error e => return (.error (.startFailed e), d)

def reload (d : Driver) : Plan (Except SessionError Unit × Driver) :=
  d.start

/-- Tears the session down and refuses all others. -/
def close (d : Driver) : Plan Driver :=
  withoutSession { d with closed := true }

/-- The driver with what is now known of its child. -/
def observe (d : Driver) : Plan Driver :=
  match d.session with
  | none => return d
  | some session => do
    return { d with session := some { session with child := ← session.child.observe } }

/-- What a driver whose child was just observed is seen to be. -/
def state (d : Driver) : DriverState :=
  if d.closed then .closed
  else
    match d.session with
    | some session =>
      match session.child.exit with
      | some exit => .exited exit
      | none => .running
    | none => if d.source.isSome then .loaded else .unloaded

def status (d : Driver) : Plan (DriverState × Driver) := do
  let d ← if d.closed then pure d else d.observe
  return (d.state, d)

/-- The child to which a driver whose child was just observed hands a line. -/
def recipient (d : Driver) : Except SessionError ChildId :=
  match d.session with
  | none => .error .notRunning
  | some session =>
    match session.child.exit with
    | some exit => .error (.shellExited exit)
    | none => .ok session.child.id

def enqueue (d : Driver) (line : String) : Plan (Except SessionError Unit × Driver) := do
  let d ← d.observe
  match d.recipient with
  | .error e => return (.error e, d)
  | .ok child =>
    let accepted : Bool ← Plan.call (.send child line)
    return (if accepted then .ok () else .error .notRunning, d)

/-- The line that words make, with single spaces between them. -/
def lineOfWords (words : List String) : String :=
  " ".intercalate words ++ "\n"

def terminated (text : String) : String :=
  if text.toList.getLast? = some '\n' then text else text ++ "\n"

/-- Submits words as one line; no words are no line. -/
def submit (d : Driver) (words : List String) : Plan (Except SessionError Unit × Driver) :=
  if words.isEmpty then return (.ok (), d) else d.enqueue (lineOfWords words)

def submitLine (d : Driver) (line : String) : Plan (Except SessionError Unit × Driver) :=
  d.enqueue (terminated line)

end Driver
end ShellDebugger
