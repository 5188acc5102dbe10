import ShellDebugger.Schedule
import ShellDebugger.Stream.Scribe

/-!
# Feeding

A sender hands items in order to a scribe, through a channel that stays open, and stops at the
first refusal. The two act in any order.
-/

namespace ShellDebugger

/-- A sender and a scribe at the two ends of a channel. -/
structure Feeding where
  /-- The items that are still to be sent, in order. -/
  unsent : List Bytes
  /-- Whether a send was refused. -/
  refused : Bool
  items : Channel Bytes
  scribe : Scribe
  deriving DecidableEq, Repr

namespace Feeding

def ofItems (items : List Bytes) (capacity : Nat) (writer : Writer) : Feeding :=
  ⟨items, false, .ofCapacity capacity, .ofWriter writer⟩

inductive Party where
  | sender
  | scribe
  deriving DecidableEq, Repr

/-- One action of a party, `none` if it has to wait or is done. -/
def act : Party → Feeding → Option Feeding
  | .sender, f =>
    match f.refused, f.unsent with
    | false, item :: rest =>
      match f.items.send item with
      | .accepted items => some { f with unsent := rest, items := items }
      | .full => none
      | .refused => some { f with refused := true }
    | _, _ => none
  | .scribe, f =>
    (f.scribe.step f.items).map fun (scribe, items) ↦ { f with scribe := scribe, items := items }

def actionsLeft (f : Feeding) : Nat :=
  Scribe.actionsForAll f.unsent + f.unsent.length + f.scribe.actionsLeft f.items + 1

/-- Plays a number of turns, the sender acting whenever it can. -/
def playFor (f : Feeding) : Nat → Feeding
  | 0 => f
  | turns + 1 =>
    match (act .sender f).orElse fun _ ↦ act .scribe f with
    | some f => f.playFor turns
    | none => f

def finish (f : Feeding) : Feeding :=
  f.playFor f.actionsLeft

end Feeding
end ShellDebugger
