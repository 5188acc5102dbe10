import Mathlib.Order.Bounds.Basic
import ShellDebugger.Proofs.Stream.Capacity
import ShellDebugger.Proofs.Stream.Scribe

/-!
# What a scribe makes of its items

A scribe that is left alone takes one item after another, writes it in full and flushes, up to the
first failure. How many items are done then, and which octets the writer got, follows from the room
and the flushes that the writer has; how little it takes with a call makes no difference. Each
action of a scribe does a part of this, and leaves the same to come of what is still to be done.
-/

namespace ShellDebugger

/-! ## Items one after another -/

/-- What comes of items that are written one after another. -/
structure Scribe.Outcome where
  /-- The number of items that were written and flushed. -/
  written : Nat
  /-- The octets that the writer took. -/
  taken : Bytes
  /-- Whether a write or a flush failed. -/
  failed : Bool
  deriving DecidableEq, Repr

namespace Scribe

/-- Writes and flushes one item after another, up to the first failure, when a number of them has
been written before. -/
def serve (writer : Writer) (written : Nat) : List Bytes → Outcome
  | [] => ⟨written, writer.taken, false⟩
  | item :: rest =>
    match writer.writeAll item with
    | (.error _, writer) => ⟨written, writer.taken, true⟩
    | (.ok _, writer) =>
      match writer.flush with
      | (.error _, writer) => ⟨written, writer.taken, true⟩
      | (.ok _, writer) => serve writer (written + 1) rest

variable {writer writer' : Writer} {written n : Nat} {item rest : Bytes} {items : List Bytes}

/-- An item of which nothing is left to be written is flushed. -/
theorem serve_nil_cons :
    serve writer written ([] :: items) =
      match writer.flush with
      | (.error _, writer) => ⟨written, writer.taken, true⟩
      | (.ok _, writer) => serve writer (written + 1) items := by
  have hnothing : writer.writeAll [] = (.ok (), writer) := by
    rw [Writer.writeAll, dif_pos rfl]
  simp only [serve, hnothing]

/-- A call that takes nothing is a failure. -/
theorem serve_cons_of_write_zero (hrest : rest ≠ []) (hwrite : writer.write rest = (0, writer')) :
    serve writer written (rest :: items) = ⟨written, writer'.taken, true⟩ := by
  rw [serve, Writer.writeAll, dif_neg hrest]
  simp only [hwrite, dif_pos]

/-- A call that takes some octets leaves the others of the item. -/
theorem serve_cons_of_write (hrest : rest ≠ []) (hwrite : writer.write rest = (n, writer'))
    (hn : n ≠ 0) :
    serve writer written (rest :: items) = serve writer' written (rest.drop n :: items) := by
  rw [serve, Writer.writeAll, dif_neg hrest]
  simp only [hwrite, dif_neg hn]
  rw [serve]

/-! ## How many items are written -/

/-- There are so many items, and a writer with some room and some flushes takes and flushes them. -/
def Fits (room flushes : Option Nat) (items : List Bytes) (count : Nat) : Prop :=
  count ≤ items.length ∧ (∀ most ∈ flushes, count ≤ most) ∧
    ∀ most ∈ room, (items.take count).flatten.length ≤ most

/-- The octets that a writer with some room gets of the items that are done, which are so many, and
of the next one. -/
def received (room : Option Nat) (items : List Bytes) (count : Nat) : Bytes :=
  items.flatten.take (Writer.bounded (items.take (count + 1)).flatten.length room)

variable {room flushes : Option Nat} {count : Nat}

theorem fits_zero (room flushes : Option Nat) (items : List Bytes) : Fits room flushes items 0 :=
  ⟨Nat.zero_le _, fun _ _ ↦ Nat.zero_le _, fun _ _ ↦ Nat.zero_le _⟩

theorem fits_cons_succ_iff :
    Fits room flushes (item :: items) (count + 1) ↔
      (∀ most ∈ room, item.length ≤ most) ∧ (∀ most ∈ flushes, 1 ≤ most) ∧
        Fits (room.map (· - item.length)) (flushes.map (· - 1)) items count := by
  cases room <;> cases flushes <;> simp [Fits] <;> omega

theorem isGreatest_fits_zero (h : ∀ count, ¬ Fits room flushes items (count + 1)) :
    IsGreatest {count | Fits room flushes items count} 0 := by
  refine ⟨fits_zero room flushes items, fun count hfits ↦ ?_⟩
  cases count with
  | zero => exact Nat.le_refl 0
  | succ count => exact absurd hfits (h count)

theorem isGreatest_fits_succ (hroom : ∀ most ∈ room, item.length ≤ most)
    (hflushes : ∀ most ∈ flushes, 1 ≤ most)
    (h : IsGreatest
      {count | Fits (room.map (· - item.length)) (flushes.map (· - 1)) items count} count) :
    IsGreatest {count | Fits room flushes (item :: items) count} (count + 1) := by
  refine ⟨fits_cons_succ_iff.mpr ⟨hroom, hflushes, h.1⟩, fun other hfits ↦ ?_⟩
  cases other with
  | zero => exact Nat.zero_le _
  | succ other => exact Nat.succ_le_succ (h.2 (fits_cons_succ_iff.mp hfits).2.2)

theorem received_eq (room : Option Nat) (items : List Bytes) (count : Nat) :
    received room items count = (items.take (count + 1)).flatten.take
      (Writer.bounded (items.take (count + 1)).flatten.length room) := by
  have hflatten : items.flatten =
      (items.take (count + 1)).flatten ++ (items.drop (count + 1)).flatten := by
    rw [← List.flatten_append, List.take_append_drop]
  have hle : Writer.bounded (items.take (count + 1)).flatten.length room ≤
      (items.take (count + 1)).flatten.length := by
    cases room with
    | none => exact Nat.le_refl _
    | some most => exact Nat.min_le_left _ _
  rw [received]
  conv_lhs => rw [hflatten]
  exact List.take_append_of_le_length hle

theorem received_cons_zero :
    received room (item :: items) 0 = item.take (Writer.bounded item.length room) := by
  rw [received_eq]
  simp

theorem received_cons_succ (hroom : ∀ most ∈ room, item.length ≤ most) :
    received room (item :: items) (count + 1) =
      item ++ received (room.map (· - item.length)) items count := by
  have hall : Writer.bounded item.length room = item.length := by
    cases room with
    | none => rfl
    | some most => exact Nat.min_eq_left (hroom most rfl)
  rw [received_eq, received_eq, List.take_succ_cons, List.flatten_cons, List.length_append,
    Writer.take_bounded_append, hall, List.take_length]

/-- An item that is written and flushed is counted, and the next one comes. -/
theorem serve_cons_of_fits (hroom : writer.HasRoomFor item.length)
    (hflushes : ∀ most ∈ writer.flushes, 1 ≤ most) :
    serve writer written (item :: items) =
      serve { writer.offered item with flushes := writer.flushes.map (· - 1) } (written + 1)
        items := by
  have hflush := Writer.flush_of_left (w := writer.offered item) hflushes
  rw [serve, Writer.writeAll_eq, if_pos hroom]
  dsimp only
  rw [hflush]
  rfl

/-- An item that is not written in full, or not flushed, is the last one. -/
theorem serve_cons_of_not_fits
    (h : ¬ (writer.HasRoomFor item.length ∧ ∀ most ∈ writer.flushes, 1 ≤ most)) :
    serve writer written (item :: items) = ⟨written, (writer.offered item).taken, true⟩ := by
  rw [serve, Writer.writeAll_eq]
  by_cases hroom : writer.HasRoomFor item.length
  · have hspent : ¬ ∀ most ∈ (writer.offered item).flushes, 1 ≤ most := fun hleft ↦ h ⟨hroom, hleft⟩
    have hflush := Writer.flush_of_spent hspent
    rw [if_pos hroom]
    dsimp only
    rw [hflush]
  · rw [if_neg hroom]

/-- As many items are written as fit the writer, which gets the octets of these and of the next one
up to its room. It fails unless these are all items. -/
theorem exists_serve_eq (hcall : writer.perCall ≠ some 0) (written : Nat) (items : List Bytes) :
    ∃ count, IsGreatest {count | Fits writer.room writer.flushes items count} count ∧
      serve writer written items =
        ⟨written + count, writer.taken ++ received writer.room items count,
          decide (count < items.length)⟩ := by
  induction items generalizing writer written with
  | nil =>
    refine ⟨0, isGreatest_fits_zero fun count hfits ↦ Nat.not_succ_le_zero count hfits.1, ?_⟩
    simp [serve, received]
  | cons item items ih =>
    have hroom : writer.HasRoomFor item.length ↔ ∀ most ∈ writer.room, item.length ≤ most :=
      Writer.hasRoomFor_iff_of_perCall hcall
    have hcapacity : writer.capacity = writer.room := if_neg hcall
    by_cases hfits : writer.HasRoomFor item.length ∧ ∀ most ∈ writer.flushes, 1 ≤ most
    · obtain ⟨hfull, hflushes⟩ := hfits
      let next := { writer.offered item with flushes := writer.flushes.map (· - 1) }
      have hall : Writer.bounded item.length writer.capacity = item.length := hfull
      have hleft : next.room = writer.room.map (· - item.length) := by
        simp only [next, Writer.offered, hall]
      have htaken : next.taken = writer.taken ++ item := hfull.taken_offered
      have hnext : next.perCall ≠ some 0 := hcall
      obtain ⟨count, hgreatest, hserve⟩ := ih hnext (written + 1)
      rw [hleft] at hgreatest hserve
      refine ⟨count + 1, isGreatest_fits_succ (hroom.mp hfull) hflushes hgreatest, ?_⟩
      calc
        serve writer written (item :: items) = serve next (written + 1) items :=
          serve_cons_of_fits hfull hflushes
        _ = ⟨written + 1 + count, next.taken ++ received (writer.room.map (· - item.length)) items
              count, decide (count < items.length)⟩ := hserve
        _ = _ := by
          rw [received_cons_succ (hroom.mp hfull), htaken, List.append_assoc]
          simp [Nat.add_assoc, Nat.add_comm 1 count]
    · refine ⟨0, isGreatest_fits_zero fun count hcount ↦ hfits ?_, ?_⟩
      · obtain ⟨htaken, hflushed, -⟩ := fits_cons_succ_iff.mp hcount
        exact ⟨hroom.mpr htaken, hflushed⟩
      · rw [serve_cons_of_not_fits hfits, received_cons_zero, ← hcapacity]
        rfl

/-! ## One action -/

/-- What a scribe has still to do of the item at hand. -/
def atHand (s : Scribe) : List Bytes :=
  match s.phase with
  | .writing rest => [rest]
  | .flushing => [[]]
  | .receiving | .ended => []

/-- A scribe that goes on leaves what comes of the items as it was. A scribe that ends has failed to
write or to flush the item at hand, or there are no items and no senders any more. -/
theorem Moves.serve_cases {s s' : Scribe} {waiting waiting' : Channel Bytes}
    (h : s.Moves waiting s' waiting') (unsent : List Bytes) :
    s.hasEnded = false ∧
    ((s'.hasEnded = false ∧ (∃ left, waiting' = { waiting with items := left }) ∧
        serve s'.writer s'.written (s'.atHand ++ (waiting'.items ++ unsent)) =
          serve s.writer s.written (s.atHand ++ (waiting.items ++ unsent))) ∨
      (s'.hasEnded = true ∧ waiting' = waiting.dropReceiver ∧
        serve s.writer s.written (s.atHand ++ (waiting.items ++ unsent)) =
          ⟨s'.written, s'.writer.taken, true⟩) ∨
      (s'.hasEnded = true ∧ waiting' = waiting.dropReceiver ∧ waiting.senders = 0 ∧
        serve s.writer s.written (s.atHand ++ waiting.items) =
          ⟨s'.written, s'.writer.taken, false⟩)) := by
  obtain ⟨phase, writer, written⟩ := s
  cases h with
  | takes hphase hitems =>
    obtain rfl : phase = .receiving := hphase
    refine ⟨rfl, .inl ⟨rfl, ⟨_, rfl⟩, ?_⟩⟩
    rw [hitems]
    rfl
  | finishes hphase hitems hsenders =>
    obtain rfl : phase = .receiving := hphase
    refine ⟨rfl, .inr (.inr ⟨rfl, rfl, hsenders, ?_⟩)⟩
    rw [hitems]
    rfl
  | writes hphase hrest hwrite hn =>
    obtain rfl := hphase
    exact ⟨rfl, .inl ⟨rfl, ⟨_, rfl⟩, (serve_cons_of_write hrest hwrite hn).symm⟩⟩
  | blocks hphase hrest hwrite =>
    obtain rfl := hphase
    exact ⟨rfl, .inr (.inl ⟨rfl, rfl, serve_cons_of_write_zero hrest hwrite⟩)⟩
  | completes hphase =>
    obtain rfl : phase = .writing [] := hphase
    exact ⟨rfl, .inl ⟨rfl, ⟨_, rfl⟩, rfl⟩⟩
  | flushes hphase hflush =>
    obtain rfl : phase = .flushing := hphase
    refine ⟨rfl, .inl ⟨rfl, ⟨_, rfl⟩, ?_⟩⟩
    change _ = serve writer written ([] :: _)
    rw [serve_nil_cons, hflush]
    rfl
  | fails hphase hflush =>
    obtain rfl : phase = .flushing := hphase
    refine ⟨rfl, .inr (.inl ⟨rfl, rfl, ?_⟩)⟩
    change serve writer written ([] :: _) = _
    rw [serve_nil_cons, hflush]

theorem actionsForAll_append (first rest : List Bytes) :
    actionsForAll (first ++ rest) = actionsForAll first + actionsForAll rest := by
  induction first with
  | nil => exact (Nat.zero_add _).symm
  | cons item first ih =>
    change actionsFor item + actionsForAll (first ++ rest) =
      actionsFor item + actionsForAll first + actionsForAll rest
    rw [ih, Nat.add_assoc]

/-- A bound on the actions that are left, and one if the scribe has not ended. -/
def remaining (s : Scribe) (waiting : Channel Bytes) : Nat :=
  s.actionsLeft waiting + if s.hasEnded then 0 else 1

theorem remaining_eq (s : Scribe) (waiting : Channel Bytes) :
    s.remaining waiting = actionsForAll waiting.items +
      match s.phase with
      | .receiving => 2
      | .writing rest => rest.length + 4
      | .flushing => 3
      | .ended => 1 := by
  obtain ⟨phase, writer, written⟩ := s
  cases phase <;> rfl

theorem Moves.remaining_lt {s s' : Scribe} {waiting waiting' : Channel Bytes}
    (h : s.Moves waiting s' waiting') : s'.remaining waiting' < s.remaining waiting := by
  have hnone : actionsForAll waiting.dropReceiver.items = 0 := rfl
  rw [remaining_eq, remaining_eq]
  cases h with
  | @takes item rest hphase hitems =>
    have hall : actionsForAll waiting.items = item.length + 3 + actionsForAll rest := by
      rw [hitems]
      rfl
    simp only [hphase, hall]
    omega
  | finishes hphase hitems hsenders | fails hphase hflush =>
    simp only [hphase, hnone]
    omega
  | @writes rest n _ hphase hrest hwrite hn =>
    have hlength := List.length_pos_iff.mpr hrest
    simp only [hphase, List.length_drop]
    omega
  | blocks hphase hrest hwrite =>
    simp only [hphase, hnone]
    omega
  | completes hphase | flushes hphase hflush =>
    simp only [hphase]
    omega

end Scribe

end ShellDebugger
