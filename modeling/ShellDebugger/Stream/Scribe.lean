import ShellDebugger.Stream.Channel
import ShellDebugger.Stream.Writer

/-!
# Scribes

A scribe is the task at the receiving end of a channel: it takes one item after another, writes
each in full and flushes after it. It ends when the channel is closed, or at the first failure;
either way its receiving end is gone from then on. The feeder of a shell's script is a scribe, and
so is each printer of what a shell prints. `step` is one indivisible action, so that a scribe can
be interleaved with those who send.
-/

namespace ShellDebugger

inductive Scribe.Phase where
  | receiving
  /-- Part of an item is still to be written. -/
  | writing (rest : Bytes)
  | flushing
  | ended
  deriving DecidableEq, Repr

/-- A scribe: what it is about to do, where it writes to, and how many items it has written. -/
structure Scribe where
  phase : Scribe.Phase
  writer : Writer
  written : Nat
  deriving DecidableEq, Repr

namespace Scribe

def ofWriter (writer : Writer) : Scribe :=
  ⟨.receiving, writer, 0⟩

def hasEnded (s : Scribe) : Bool :=
  s.phase == .ended

/-- One action of the scribe, `none` if it waits for an item or has ended. -/
def step (s : Scribe) (items : Channel Bytes) : Option (Scribe × Channel Bytes) :=
  match s.phase with
  | .receiving =>
    match items.receive with
    | .item item items => some ({ s with phase := .writing item }, items)
    | .empty => none
    | .closed => some ({ s with phase := .ended }, items.dropReceiver)
  | .writing rest =>
    if rest.isEmpty then some ({ s with phase := .flushing }, items)
    else
      match s.writer.write rest with
      | (0, writer) => some ({ s with phase := .ended, writer := writer }, items.dropReceiver)
      | (n, writer) => some ({ s with phase := .writing (rest.drop n), writer := writer }, items)
  | .flushing =>
    match s.writer.flush with
    | (.ok _, writer) =>
      some ({ phase := .receiving, writer := writer, written := s.written + 1 }, items)
    | (.error _, writer) =>
      some ({ s with phase := .ended, writer := writer }, items.dropReceiver)
  | .ended => none

/-- A bound on the actions that an item takes: one to take it, at most one for each octet, one to
find it written, and one to flush. -/
def actionsFor (item : Bytes) : Nat :=
  item.length + 3

def actionsForAll (items : List Bytes) : Nat :=
  items.foldr (fun item actions ↦ actionsFor item + actions) 0

/-- A bound on the actions that are left when nothing more is sent: those for the item at hand and
for the items that wait, and one to end. -/
def actionsLeft (s : Scribe) (items : Channel Bytes) : Nat :=
  let atHand := match s.phase with
    | .writing rest => rest.length + 2
    | .flushing => 1
    | _ => 0
  actionsForAll items.items + atHand + 1

end Scribe
end ShellDebugger
