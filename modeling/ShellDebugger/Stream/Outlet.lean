import ShellDebugger.Host.Plan
import ShellDebugger.Stream.Relay
import ShellDebugger.Stream.Scribe

/-!
# Outlets

The way out for one output stream of all the shells that the program starts, one after another. Each
shell has a relay of its own, which sends what it reads through the channel that all of them share,
and one printer writes what comes out of the channel. A relay for which nobody waits any more goes
on until the runtime cuts it off.
-/

namespace ShellDebugger

structure Inlet where
  child : ChildId
  relay : Relay
  /-- Whether the relay is to be cut off. -/
  abandoned : Bool
  deriving DecidableEq, Repr

/-- The relays of an output stream, the channel that they share, and the printer at its end. -/
structure Outlet where
  /-- The relays that were started, first started first. -/
  inlets : List Inlet
  chunks : Channel Bytes
  printer : Scribe
  /-- The chunks that the channel took from the relays. -/
  sent : List Bytes
  deriving DecidableEq, Repr

namespace Outlet

/-- Nothing has been started or printed yet, and the program holds the one sender. -/
def ofCapacity (capacity : Nat) : Outlet :=
  ⟨[], .ofCapacity capacity, .ofWriter .unlimited, []⟩

def printed (o : Outlet) : Bytes :=
  o.printer.writer.taken

/-- Starts the relay of a shell, which gets a sender of its own. -/
def attach (o : Outlet) (child : ChildId) (source : List ReadEvent) : Outlet :=
  { o with inlets := o.inlets ++ [⟨child, .ofSource source, false⟩], chunks := o.chunks.addSender }

def hasRelayed (o : Outlet) (child : ChildId) : Bool :=
  o.inlets.all fun inlet ↦ inlet.child != child || inlet.relay.hasEnded

def abandon (o : Outlet) (child : ChildId) : Outlet :=
  { o with
    inlets := o.inlets.map fun inlet ↦
      { inlet with abandoned := inlet.abandoned || inlet.child == child } }

def dropSink (o : Outlet) : Outlet :=
  { o with chunks := o.chunks.dropSender }

inductive Party where
  /-- A relay, by its place among those that were started. -/
  | relay (index : Nat)
  | printer
  /-- The runtime, which cuts off a relay, by its place among those that were started. -/
  | runtime (index : Nat)
  /-- From now on the place of printing takes what a writer would take. -/
  | terminal (writer : Writer)
  deriving DecidableEq, Repr

/-- The chunks that an action of a relay sends: the one at hand, if the relay goes on to read. -/
def chunksSent (relay next : Relay) : List Bytes :=
  match relay.phase, next.phase with
  | .sending chunk, .reading => [chunk]
  | _, _ => []

/-- One action of a party, `none` if it has to wait or has nothing left to do. -/
def act (party : Party) (o : Outlet) : Option Outlet :=
  match party with
  | .relay index => do
    let inlet ← o.inlets[index]?
    let (relay, chunks) ← inlet.relay.step o.chunks
    return { o with
      inlets := o.inlets.set index { inlet with relay := relay }
      chunks := chunks
      sent := o.sent ++ chunksSent inlet.relay relay }
  | .printer => do
    let (printer, chunks) ← o.printer.step o.chunks
    return { o with printer := printer, chunks := chunks }
  | .runtime index => do
    let inlet ← o.inlets[index]?
    guard (inlet.abandoned && !inlet.relay.hasEnded)
    return { o with
      inlets := o.inlets.set index { inlet with relay := inlet.relay.abandon }
      chunks := o.chunks.dropSender }
  | .terminal writer =>
    return { o with printer := { o.printer with writer := o.printer.writer.changedTo writer } }

end Outlet
end ShellDebugger
