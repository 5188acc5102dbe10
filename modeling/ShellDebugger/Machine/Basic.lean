import ShellDebugger.Machine.Process
import ShellDebugger.Session.ScriptPipe

/-!
# The machine

A system that answers the calls of plans: files, processes, and a clock that only waiting moves.
What a process does takes no time unless it sleeps or is busy for very long. The end of a process is
published when somebody waits for it, and the changes that it made to files are there from its end
on.
-/

namespace ShellDebugger

structure Machine where
  files : FileTree
  /-- The variables that processes get. -/
  environment : Environment
  /-- The number of the debugger's process. -/
  processId : Nat
  /-- The next number that the debugger's process draws. -/
  nextNumber : UInt64
  /-- The time in milliseconds. -/
  clock : Nat
  /-- The processes in the order of their starts. -/
  processes : List Process
  /-- What was relayed from the processes. -/
  relayed : PerStream Bytes
  /-- The end of that, as far as nobody had time to print it. -/
  late : PerStream Bytes

namespace Machine

def ofFiles (files : FileTree) (environment : Environment) (processId : Nat) : Machine :=
  ⟨files, environment, processId, 0, 0, [], ⟨[], []⟩, ⟨[], []⟩⟩

/-- The time between two looks at a shell that is to open its script, in milliseconds. -/
def pollInterval : Nat := 10

def lookAfter (time : Nat) : Nat :=
  (time / pollInterval + 1) * pollInterval

def lookFrom (time : Nat) : Nat :=
  (time + pollInterval - 1) / pollInterval * pollInterval

def update (m : Machine) (id : ChildId) (f : Process → Process) : Machine :=
  { m with processes := m.processes.modify id f }

def progress (m : Machine) (p : Process) (deadline : Option Nat) : Process.Progress :=
  p.progress m.files m.environment (m.processId + 1 + m.processes.length) m.processId deadline

def finish (m : Machine) (id : ChildId) (exit : Exit) (progress : Process.Progress) : Machine :=
  let files := match m.processes[id]? with
    | some p => p.unview m.files progress.system.world.files
    | none => m.files
  let clock := max m.clock progress.time
  { m.update id (·.ended exit progress clock) with files, clock }

/-- Lets a process run up to a time, or as long as it can: the machine and how the process ended.
Time is over if the process outlasts it. -/
def awaitUntil (m : Machine) (id : ChildId) (deadline : Option Nat) : Machine × Option Exit :=
  match m.processes[id]? with
  | none => (m, none)
  | some p =>
    match p.exit with
    | some exit => (m, some exit)
    | none =>
      let progress := m.progress p deadline
      match progress.exit with
      | some exit => (m.finish id exit progress, some exit)
      | none => ({ m with clock := max m.clock (deadline.getD m.clock) }, none)

/-- Lets a process run up to a time and publishes its end if it comes to it. -/
def publishUntil (m : Machine) (id : ChildId) (deadline : Option Nat) : Machine × Option Exit :=
  let (m, exit) := m.awaitUntil id deadline
  (m.update id fun p ↦ { p with published := p.published || exit.isSome }, exit)

/-- Waits for the end of a process. A process that never ends is lost. -/
def await (m : Machine) (id : ChildId) : Machine × Exit :=
  let (m, exit) := m.publishUntil id none
  (m, exit.getD (.lost "exit watcher dropped"))

def kill (m : Machine) (id : ChildId) : Machine :=
  match m.processes[id]? with
  | none => m
  | some p =>
    if p.exit.isSome then m
    else
      let progress := (m.progress p (some m.clock)).killed m.clock
      m.finish id (progress.exit.getD (.signal .kill)) progress

/-- What happens to a script while somebody looks at it, in milliseconds since the first look. -/
structure ScriptEvents where
  /-- When the process opens it. -/
  opened : Option Nat
  /-- When it cannot be opened by its path any more, and why not. -/
  gone : Option (Nat × IoError)
  /-- When the process ends without having opened it, and how. -/
  ended : Option (Nat × Exit)

namespace ScriptEvents

/-- What has become by a time of opening the script, at first the answer `attempt`. -/
def attemptAt (events : ScriptEvents) (attempt : Except IoError Unit) (now : Nat) :
    Except IoError Unit :=
  match events.gone with
  | some (time, cause) => if time < now then .error cause else attempt
  | none => attempt

def exitAt (events : ScriptEvents) (now : Nat) : Option Exit :=
  events.ended.bind fun (time, exit) ↦ if time < now then some exit else none

/-- The time of the first look that sees one of the events, or finds that the time is over. -/
def lastLook (events : ScriptEvents) (timeout : Nat) : Nat :=
  [events.opened, events.gone.map (·.1), events.ended.map (·.1)].foldl
    (fun last time ↦ min last ((time.map lookAfter).getD last)) (lookFrom timeout)

end ScriptEvents

/-- The looks at a process that is to open its script, until something is seen or the time is
over. -/
def looks (attempt : Except IoError Unit) (events : ScriptEvents) (timeout : Nat) : List Poll :=
  (List.range (events.lastLook timeout / pollInterval + 1)).map fun i ↦
    let now := i * pollInterval
    { attempt := (events.attemptAt attempt now).map fun _ ↦ events.opened.any (· < now)
      exit := events.exitAt now
      clock := ⟨now⟩ }

/-- What becomes of opening a script for writing, but for want of a reader. -/
def openingOf (files : FileTree) (script : Path) : Except IoError Unit :=
  (files.tryOpenWriter script).map fun _ ↦ ()

/-- What happens to a script, given how far its process gets. -/
def scriptEvents (m : Machine) (script : Path) (progress : Process.Progress) : ScriptEvents :=
  let since (time : Nat) : Nat := time - m.clock
  { opened := progress.scriptOpened.map since
    gone := match progress.scriptMoved, openingOf progress.system.world.files script with
      | some time, .error cause => some (since time, cause)
      | _, _ => none
    ended := match progress.exit, progress.scriptOpened with
      | some exit, none => some (since progress.time, exit)
      | _, _ => none }

def watch (m : Machine) (id : ChildId) (script : Path) (timeout : Duration) : Machine × List Poll :=
  match m.processes[id]? with
  | none => (m, [])
  | some p =>
    let p := { p with script := (m.files.resolve true script).toOption }
    let m := m.update id fun _ ↦ p
    let progress := m.progress p (some (m.clock + lookFrom timeout.milliseconds))
    let polls := looks (openingOf m.files script) (m.scriptEvents script progress)
      timeout.milliseconds
    match polls.getLast? with
    | none => (m, polls)
    | some last =>
      let m := { m with clock := m.clock + last.clock.milliseconds }
      match last.exit with
      | some exit => ((m.finish id exit progress).update id ({ · with published := true }), polls)
      | none => (m, polls)

def spawn (m : Machine) (executable : Path) (arguments : List Bytes) :
    Machine × Except IoError ChildId :=
  let searchPath := (m.environment.octets? "PATH").getD Executable.usualPath
  let resolved := do
    if arguments.any (·.contains 0) then throw IoError.nulInExecutable
    let (path, image) ← Executable.resolve m.files searchPath executable.octets
    return (← m.files.find path, image)
  match resolved with
  | .error cause => (m, .error cause)
  | .ok (file, image) =>
    let p : Process :=
      { image, executable, arguments, file
        start := m.clock
        script := none
        fed := []
        scriptClosed := false
        inputClosed := false
        exit := none
        published := false
        printed := ⟨[], []⟩
        late := ⟨[], []⟩ }
    ({ m with processes := m.processes ++ [p] }, .ok m.processes.length)

def changeFiles (m : Machine) (change : Except IoError FileTree) : Machine × Except IoError Unit :=
  match change with
  | .ok files => ({ m with files := files }, .ok ())
  | .error cause => (m, .error cause)

/-- Waits until the script pipe of a process has taken all that was fed: whether it did in time. -/
def awaitFed (m : Machine) (id : ChildId) (deadline : Option Nat) : Machine × Bool :=
  let m := m.update id ({ · with scriptClosed := true })
  match m.processes[id]? with
  | none => (m, true)
  | some p =>
    if p.exit.isSome || p.feed.length ≤ Process.pipeRoom || (m.progress p deadline).isFed then
      (m, true)
    else ({ m with clock := max m.clock (deadline.getD m.clock) }, false)

/-- Adds what a process has printed to one stream to what was relayed. -/
def relay (m : Machine) (id : ChildId) (stream : Stream) : Machine :=
  match m.processes[id]? with
  | none => m
  | some p =>
    { m with
      relayed := m.relayed.update (· ++ p.printed.get stream) stream
      late := m.late.update (fun _ ↦ p.late.get stream) stream }

def readToEnd (m : Machine) (id : ChildId) (stream : Stream) : Machine × Bytes :=
  let (m, _) := m.awaitUntil id none
  (m, (m.processes[id]?).elim [] (·.printed.get stream))

def answer (c : Call) (m : Machine) : Machine × c.Answer :=
  match c with
  | .inspect path => (m, (m.files.find path).map (·.2.isDirectory))
  | .read path => (m, m.files.read path)
  | .drawNumber => ({ m with nextNumber := m.nextNumber + 1 }, m.nextNumber)
  | .makePipe path => m.changeFiles (m.files.makePipe path ScriptPipe.mode)
  | .unlink path => m.changeFiles (m.files.unlink path)
  | .spawn executable arguments _ => m.spawn executable arguments
  | .startRelay .. => (m, ())
  | .watch id script timeout => m.watch id script timeout
  | .exitOf id => (m, (m.processes[id]?).bind fun p ↦ if p.published then p.exit else none)
  | .startFeeder .. => (m, ())
  | .send id line =>
    (m.update id fun p ↦ { p with fed := Utf8.encode line :: p.fed }, true)
  | .dropSender _ => (m, ())
  | .joinFeeder id => ((m.awaitFed id none).1, ())
  | .joinFeederFor id limit => m.awaitFed id (some (m.clock + limit.milliseconds))
  | .closeInput id => (m.update id ({ · with inputClosed := true }), ())
  | .kill id => (m.kill id, ())
  | .awaitExit id => m.await id
  | .awaitExitFor id limit => m.publishUntil id (some (m.clock + limit.milliseconds))
  | .joinRelay id stream => (m.relay id stream, true)

def carryOut {α : Type} (plan : Plan α) (m : Machine) : α × Machine :=
  plan.runWith answer m

def withPrograms (files : FileTree) : FileTree :=
  (Executable.install files).installDirectory "/tmp"

end Machine
end ShellDebugger
