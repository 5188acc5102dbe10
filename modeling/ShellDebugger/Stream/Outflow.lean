import ShellDebugger.Schedule
import ShellDebugger.Stream.Relay
import ShellDebugger.Stream.Scribe

/-!
# Outflows

The way of an output stream from a shell to where it is printed: a relay reads it and sends what
it reads through a channel, and a printer writes what comes out of the channel. The two act in any
order, and the channel holds the relay back when the printer is slow. What the place of printing
takes may change at any moment.
-/

namespace ShellDebugger

/-- A relay and a printer at the two ends of a channel. -/
structure Outflow where
  relay : Relay
  chunks : Channel Bytes
  printer : Scribe
  /-- The octets that the channel took from the relay. -/
  sent : Bytes
  deriving DecidableEq, Repr

namespace Outflow

def ofSource (source : List ReadEvent) (capacity : Nat) (writer : Writer) : Outflow :=
  ⟨.ofSource source, .ofCapacity capacity, .ofWriter writer, []⟩

def printed (o : Outflow) : Bytes :=
  o.printer.writer.taken

inductive Party where
  | relay
  | printer
  /-- From now on the place of printing takes what a writer would take. -/
  | terminal (writer : Writer)
  deriving DecidableEq, Repr

/-- The octets that an action of the relay sends: those of the chunk at hand, if it goes on to read
the next one. -/
def handedOver (relay next : Relay) : Bytes :=
  match relay.phase, next.phase with
  | .sending chunk, .reading => chunk
  | _, _ => []

/-- One action of a party, `none` if it has to wait or has ended. -/
def act : Party → Outflow → Option Outflow
  | .relay, o =>
    (o.relay.step o.chunks).map fun (relay, chunks) ↦
      { o with relay := relay, chunks := chunks, sent := o.sent ++ handedOver o.relay relay }
  | .printer, o =>
    (o.printer.step o.chunks).map fun (printer, chunks) ↦
      { o with printer := printer, chunks := chunks }
  | .terminal writer, o =>
    some { o with printer := { o.printer with writer := o.printer.writer.changedTo writer } }

/-- The relay is cut off, and it is no sender any more. -/
def abandon (o : Outflow) : Outflow :=
  if o.relay.hasEnded then o
  else { o with relay := o.relay.abandon, chunks := o.chunks.dropSender }

end Outflow
end ShellDebugger
