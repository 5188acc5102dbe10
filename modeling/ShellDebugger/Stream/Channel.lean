/-!
# Bounded channels

A queue of bounded length between senders and one receiver. It is closed to the receiver when it
is empty and the last sender is gone, and closed to the senders when the receiver is gone.
-/

namespace ShellDebugger

structure Channel (α : Type) where
  /-- The most items that wait at a time. -/
  capacity : Nat
  /-- The items that wait, first sent first. -/
  items : List α
  /-- The number of senders. -/
  senders : Nat
  /-- Whether the receiver still takes items. -/
  receiving : Bool
  deriving DecidableEq, Repr

namespace Channel

variable {α : Type}

/-- An empty channel for at least one item, with one sender. There is no greatest capacity here; the
channels of the debugger cannot be made for more than `2 ^ 61 - 1` items, and the attempt ends the
program. -/
def ofCapacity (capacity : Nat) : Channel α :=
  ⟨max capacity 1, [], 1, true⟩

inductive Sent (α : Type) where
  | accepted (channel : Channel α)
  /-- The queue is full, and the sender has to wait. -/
  | full
  /-- The receiver is gone. -/
  | refused

/-- Sends an item, unless the channel is full or its receiver is gone. -/
def send (c : Channel α) (item : α) : Sent α :=
  if !c.receiving then .refused
  else if c.items.length < c.capacity then .accepted { c with items := c.items ++ [item] }
  else .full

inductive Received (α : Type) where
  | item (item : α) (channel : Channel α)
  /-- Nothing waits, but a sender may still send. -/
  | empty
  /-- Nothing waits and nothing will. -/
  | closed

def receive (c : Channel α) : Received α :=
  match c.items with
  | item :: rest => .item item { c with items := rest }
  | [] => if c.senders = 0 then .closed else .empty

def addSender (c : Channel α) : Channel α :=
  { c with senders := c.senders + 1 }

def dropSender (c : Channel α) : Channel α :=
  { c with senders := c.senders - 1 }

/-- The channel without its receiver; what waited is lost. -/
def dropReceiver (c : Channel α) : Channel α :=
  { c with items := [], receiving := false }

end Channel
end ShellDebugger
