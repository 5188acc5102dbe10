import ShellDebugger.Host.IoError
import ShellDebugger.Text.Utf8

/-!
# Writers

A destination of octets that may take only some of what one call offers, may be full after a
number of octets, and may fail to flush. `writeAll` offers the rest again until nothing is left,
and fails when a call takes nothing.
-/

namespace ShellDebugger

/-- A destination of octets and what it has taken. -/
structure Writer where
  /-- The most octets that one call takes. -/
  perCall : Option Nat
  /-- The octets for which there still is room. -/
  room : Option Nat
  /-- The flushes that will still succeed. -/
  flushes : Option Nat
  /-- The octets taken so far. -/
  taken : Bytes
  deriving DecidableEq, Repr

namespace Writer

def unlimited : Writer := ⟨none, none, none, []⟩

/-- A writer that takes a number of octets, if one is given. -/
def ofRoom (room : Option Nat) : Writer := ⟨none, room, none, []⟩

/-- The writer when from now on it takes what another one would take. -/
def changedTo (w other : Writer) : Writer := { other with taken := w.taken }

def bounded (n : Nat) : Option Nat → Nat
  | none => n
  | some most => min n most

/-- The number of octets that one call takes of `n` offered. -/
def accepts (w : Writer) (n : Nat) : Nat :=
  bounded (bounded n w.perCall) w.room

/-- One call: the number of octets taken, and the writer after it. -/
def write (w : Writer) (octets : Bytes) : Nat × Writer :=
  let n := w.accepts octets.length
  (n, { w with room := w.room.map (· - n), taken := w.taken ++ octets.take n })

/-- Flushes: whether that succeeds, and the writer after it. -/
def flush (w : Writer) : Except IoError Unit × Writer :=
  match w.flushes with
  | none => (.ok (), w)
  | some 0 => (.error (.stated "flush refused"), w)
  | some (n + 1) => (.ok (), { w with flushes := some n })

/-- Offers octets until all are taken or a call takes none. -/
def writeAll (w : Writer) (octets : Bytes) : Except IoError Unit × Writer :=
  if h : octets = [] then (.ok (), w)
  else
    let (n, next) := w.write octets
    if hn : n = 0 then (.error .shortWrite, next)
    else
      have hshorter : (octets.drop n).length < octets.length := by
        have hlength := List.length_pos_iff.2 h
        simp only [List.length_drop]
        exact Nat.sub_lt hlength (Nat.pos_of_ne_zero hn)
      writeAll next (octets.drop n)
termination_by octets.length

end Writer
end ShellDebugger
