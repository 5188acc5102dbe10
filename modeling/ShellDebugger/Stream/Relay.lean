import ShellDebugger.Stream.Channel
import ShellDebugger.Text.Utf8

/-!
# Relays

A relay copies one output stream of a shell into a channel of chunks, each as large as one read
returns it. It ends at the end of the stream, at a read that fails, or when the channel's receiver
is gone, and from then on it is no sender any more; a read that is only interrupted is made again.
Only chunks that the channel took count as relayed.
-/

namespace ShellDebugger

/-- What the reads of a source meet, one after another. Octets are returned in reads of at most
`Relay.readSize`, and none at all read as the end of the stream, as does the end of the events. -/
inductive ReadEvent where
  | octets (octets : Bytes)
  | interrupted
  | failed
  deriving DecidableEq, Repr

inductive Relay.Phase where
  | reading
  /-- A chunk that was read is still to be sent. -/
  | sending (chunk : Bytes)
  | ended
  deriving DecidableEq, Repr

/-- A relay: what it is about to do, what its reads are going to meet, and how many octets it has
relayed. -/
structure Relay where
  phase : Relay.Phase
  source : List ReadEvent
  relayed : Nat
  deriving DecidableEq, Repr

namespace Relay

def readSize : Nat := 8192

def ofSource (source : List ReadEvent) : Relay :=
  ⟨.reading, source, 0⟩

/-- One read: the chunk, empty at the end of the stream, or nothing if the read failed. An
interrupted read has an answer of its own. -/
inductive Read where
  | chunk (octets : Bytes) (rest : List ReadEvent)
  | interrupted (rest : List ReadEvent)
  | failed

def read : List ReadEvent → Read
  | [] => .chunk [] []
  | .octets octets :: rest =>
    if octets.length ≤ readSize then .chunk octets rest
    else .chunk (octets.take readSize) (.octets (octets.drop readSize) :: rest)
  | .interrupted :: rest => .interrupted rest
  | .failed :: _ => .failed

def hasEnded (r : Relay) : Bool :=
  r.phase == .ended

def abandon (r : Relay) : Relay :=
  { r with phase := .ended }

/-- One action of the relay, `none` if it waits for room in the channel or has ended. -/
def step (r : Relay) (chunks : Channel Bytes) : Option (Relay × Channel Bytes) :=
  match r.phase with
  | .reading =>
    match read r.source with
    | .chunk octets rest =>
      if octets.isEmpty then some ({ r with phase := .ended }, chunks.dropSender)
      else some ({ r with phase := .sending octets, source := rest }, chunks)
    | .interrupted rest => some ({ r with source := rest }, chunks)
    | .failed => some ({ r with phase := .ended }, chunks.dropSender)
  | .sending chunk =>
    match chunks.send chunk with
    | .accepted chunks =>
      some ({ r with phase := .reading, relayed := r.relayed + chunk.length }, chunks)
    | .full => none
    | .refused => some ({ r with phase := .ended }, chunks.dropSender)
  | .ended => none

/-- A bound on the actions that an event takes: two for each read. -/
def actionsFor : ReadEvent → Nat
  | .octets octets => 2 * (octets.length / readSize + 1)
  | .interrupted | .failed => 2

/-- A bound on the actions that are left when the channel never fills. -/
def actionsLeft (r : Relay) : Nat :=
  r.source.foldr (fun event actions ↦ actionsFor event + actions) 4

/-- Runs a relay, taking each chunk out of the channel as soon as it is there: the relay, the
channel, and the chunks in order. -/
def drain (r : Relay) (chunks : Channel Bytes) (taken : List Bytes) :
    Nat → Relay × Channel Bytes × List Bytes
  | 0 => (r, chunks, taken.reverse)
  | fuel + 1 =>
    match r.step chunks with
    | none => (r, chunks, taken.reverse)
    | some (r, chunks) =>
      match chunks.receive with
      | .item chunk chunks => drain r chunks (chunk :: taken) fuel
      | _ => drain r chunks taken fuel

/-- Relays a source to its end, with a receiver that keeps up. -/
def run (r : Relay) (chunks : Channel Bytes) : Relay × Channel Bytes × List Bytes :=
  r.drain chunks [] r.actionsLeft

end Relay
end ShellDebugger
