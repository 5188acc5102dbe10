import ShellDebugger.Schedule
import ShellDebugger.Session.Driver
import ShellDebugger.Stream.Scribe

/-!
# Traffic to the shells

Lines on their way to shells while sessions come and go. To submit a line takes two actions: under
the driver's lock one looks who gets it and takes a sender of one's own, and then, without the
lock, one sends it. A start or a close holds the lock until it is over; it drops the driver's own
sender and waits for the feeder of the old session, which ends only when no sender is left. So a
line that was accepted is written even if its session is torn down meanwhile. What a shell takes
from its script may change at any moment.
-/

namespace ShellDebugger

structure Lane where
  lines : Channel Bytes
  feeder : Scribe
  /-- The lines that the channel took, first taken first. -/
  accepted : List Bytes
  deriving DecidableEq, Repr

inductive Traffic.Lock where
  | free
  /-- One who waits for the feeder of a session, perhaps to start another one then. -/
  | tearing (child : ChildId) (restart : Bool)
  /-- One who starts a session. -/
  | starting
  deriving DecidableEq, Repr

/-- A driver, the lanes of all its sessions, and the submitters that are under way. -/
structure Traffic where
  driver : Driver
  /-- The lanes by the children that they lead to. -/
  lanes : List Lane
  lock : Traffic.Lock
  /-- The lines for which a sender was taken: to which child each goes, and its octets. -/
  underWay : List (ChildId × Bytes)
  deriving DecidableEq, Repr

namespace Traffic

def ofDriver (driver : Driver) : Traffic :=
  ⟨driver, [], .free, []⟩

inductive Party where
  /-- Somebody who has a line to submit looks who gets it. -/
  | submitter (line : String)
  /-- The submitter with an index among those under way sends. -/
  | sender (index : Nat)
  /-- The feeder of a child acts. -/
  | feeder (child : ChildId)
  /-- From now on the script of a child takes what a writer would take. -/
  | script (child : ChildId) (writer : Writer)
  /-- The live shell exits, and that is published. -/
  | shell (exit : Exit)
  /-- Somebody begins to start a session. -/
  | starter
  /-- Somebody begins to close the driver. -/
  | closer
  /-- One who waits for a feeder goes on. -/
  | holder
  /-- A session is there, with a pipe and what takes the octets written to it; or starting it has
  failed. -/
  | opener (opened : Option (ScriptPipe × Writer))

def update (t : Traffic) (child : ChildId) (f : Lane → Lane) : Traffic :=
  { t with lanes := t.lanes.modify child f }

def mapLines (t : Traffic) (child : ChildId) (f : Channel Bytes → Channel Bytes) : Traffic :=
  t.update child fun lane ↦ { lane with lines := f lane.lines }

/-- A submitter takes a sender of the live session. -/
def lookUp (t : Traffic) (line : String) : Option Traffic :=
  match t.lock, t.driver.recipient with
  | .free, .ok child =>
    let t := t.mapLines child Channel.addSender
    some { t with underWay := t.underWay ++ [(child, Utf8.encode line)] }
  | _, _ => none

/-- A submitter that has a sender sends, or waits while the channel is full. -/
def send (t : Traffic) (index : Nat) : Option Traffic := do
  let (child, line) ← t.underWay[index]?
  let lane ← t.lanes[child]?
  let t := { t with underWay := t.underWay.eraseIdx index }
  match lane.lines.send line with
  | .accepted lines =>
    some (t.update child fun lane ↦
      { lane with lines := lines.dropSender, accepted := lane.accepted ++ [line] })
  | .full => none
  | .refused => some (t.mapLines child Channel.dropSender)

def feed (t : Traffic) (child : ChildId) : Option Traffic := do
  let lane ← t.lanes[child]?
  let (feeder, lines) ← lane.feeder.step lane.lines
  return t.update child fun lane ↦ { lane with feeder := feeder, lines := lines }

/-- The script of a child takes more or less from now on. -/
def change (t : Traffic) (child : ChildId) (writer : Writer) : Traffic :=
  t.update child fun lane ↦
    { lane with feeder := { lane.feeder with writer := lane.feeder.writer.changedTo writer } }

/-- The exit of the live shell is published, once. -/
def publish (t : Traffic) (exit : Exit) : Option Traffic :=
  match t.driver.session with
  | some session =>
    if session.child.exit.isNone then
      let child := { session.child with exit := some exit }
      some { t with driver := { t.driver with session := some { session with child := child } } }
    else none
  | none => none

/-- Takes the lock and the session out of the driver, and drops the driver's own sender. -/
def detach (t : Traffic) (restart : Bool) : Traffic :=
  match t.driver.session with
  | some session =>
    let t := t.mapLines session.child.id Channel.dropSender
    { t with
      driver := { t.driver with session := none }
      lock := .tearing session.child.id restart }
  | none => { t with lock := if restart then .starting else .free }

/-- One who waits for a feeder goes on when the feeder has ended. -/
def proceed (t : Traffic) : Option Traffic :=
  match t.lock with
  | .tearing child restart =>
    if t.lanes[child]?.all (·.feeder.hasEnded) then
      some { t with lock := if restart then .starting else .free }
    else none
  | _ => none

def settle (t : Traffic) (opened : Option (ScriptPipe × Writer)) : Traffic :=
  match opened with
  | none => { t with lock := .free }
  | some (pipe, writer) =>
    let child : Child := ⟨t.lanes.length, t.driver.settings.shell, ⟨false, false⟩, none⟩
    let feeder := Scribe.ofWriter (Writer.unlimited.changedTo writer)
    { t with
      driver := { t.driver with session := some ⟨pipe, child⟩ }
      lanes := t.lanes ++ [⟨.ofCapacity t.driver.settings.feedCapacity, feeder, []⟩]
      lock := .free }

/-- What happens when a party acts, `none` if it has to wait or may not. -/
def act (party : Party) (t : Traffic) : Option Traffic :=
  match party, t.lock with
  | .submitter line, _ => t.lookUp line
  | .sender index, _ => t.send index
  | .feeder child, _ => t.feed child
  | .script child writer, _ => some (t.change child writer)
  | .shell exit, _ => t.publish exit
  | .starter, .free => if t.driver.closed then none else some (t.detach true)
  | .closer, .free =>
    some ({ t with driver := { t.driver with closed := true } }.detach false)
  | .holder, _ => t.proceed
  | .opener opened, .starting => some (t.settle opened)
  | _, _ => none

def written (t : Traffic) (child : ChildId) : Bytes :=
  (t.lanes[child]?).elim [] (·.feeder.writer.taken)

/-- The octets of the lines that the channel of a child took, in the order in which it took them. -/
def accepted (t : Traffic) (child : ChildId) : Bytes :=
  (t.lanes[child]?).elim [] (·.accepted.flatten)

/-- The number of lines that the feeder of a child has written and flushed. -/
def linesWritten (t : Traffic) (child : ChildId) : Nat :=
  (t.lanes[child]?).elim 0 (·.feeder.written)

/-- Whether the session of a child has been torn down, as far as its lines go: it was there, the
driver has let go of it, and nobody waits for its feeder any more. -/
def isTornDown (t : Traffic) (child : ChildId) : Bool :=
  (t.lanes[child]?).isSome && t.driver.session.all (·.child.id != child) &&
    t.lock != .tearing child true && t.lock != .tearing child false

end Traffic
end ShellDebugger
