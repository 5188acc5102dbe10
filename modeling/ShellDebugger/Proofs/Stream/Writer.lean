import ShellDebugger.Stream.Writer

/-!
# Willing writers

A writer that takes at least one octet with each call, never is full and flushes without failure
takes all that it is offered, however little it takes at a time.
-/

namespace ShellDebugger.Writer

/-- A call adds what it takes to what was taken. -/
theorem taken_of_write {w w' : Writer} {octets : Bytes} {n : Nat}
    (h : w.write octets = (n, w')) : w'.taken = w.taken ++ octets.take n := by
  cases h
  rfl

/-- A flush takes nothing. -/
theorem taken_of_flush {w w' : Writer} {result : Except IoError Unit}
    (h : w.flush = (result, w')) : w'.taken = w.taken := by
  unfold flush at h
  split at h <;> cases h <;> rfl

/-- A flush succeeds as long as there are flushes that will. -/
theorem flush_of_left {w : Writer} (h : ∀ most ∈ w.flushes, 1 ≤ most) :
    w.flush = (.ok (), { w with flushes := w.flushes.map (· - 1) }) := by
  obtain ⟨perCall, room, flushes, taken⟩ := w
  cases flushes with
  | none => rfl
  | some most =>
    obtain ⟨left, rfl⟩ := Nat.exists_eq_add_of_le' (h most rfl)
    rfl

theorem flush_of_spent {w : Writer} (h : ¬ ∀ most ∈ w.flushes, 1 ≤ most) :
    w.flush = (.error (.stated "flush refused"), w) := by
  have hspent : w.flushes = some 0 := by
    cases hflushes : w.flushes with
    | none => simp [hflushes] at h
    | some most => simpa [hflushes] using h
  rw [flush, hspent]

/-- Nothing stops the writer. -/
structure IsWilling (w : Writer) : Prop where
  perCall : w.perCall ≠ some 0
  room : w.room = none
  flushes : w.flushes = none

def taking (w : Writer) (octets : Bytes) : Writer :=
  { w with taken := w.taken ++ octets }

theorem taking_nil (w : Writer) : w.taking [] = w := by
  simp only [taking, List.append_nil]

theorem taking_taking (w : Writer) (first rest : Bytes) :
    (w.taking first).taking rest = w.taking (first ++ rest) := by
  simp only [taking, List.append_assoc]

variable {w : Writer}

theorem IsWilling.taking (h : w.IsWilling) (octets : Bytes) : (w.taking octets).IsWilling :=
  ⟨h.perCall, h.room, h.flushes⟩

theorem IsWilling.write_eq (h : w.IsWilling) (octets : Bytes) :
    w.write octets =
      (w.accepts octets.length, w.taking (octets.take (w.accepts octets.length))) := by
  simp only [write, Writer.taking, h.room, Option.map_none]

theorem IsWilling.accepts_pos (h : w.IsWilling) {n : Nat} (hn : 0 < n) : 0 < w.accepts n := by
  simp only [accepts, h.room, bounded]
  cases hmost : w.perCall with
  | none => exact hn
  | some most =>
    have hpos : most ≠ 0 := fun hzero ↦ h.perCall (by rw [hmost, hzero])
    exact Nat.lt_min.mpr ⟨hn, Nat.pos_of_ne_zero hpos⟩

theorem IsWilling.writeAll_eq (h : w.IsWilling) (octets : Bytes) :
    w.writeAll octets = (.ok (), w.taking octets) := by
  induction w, octets using writeAll.induct with
  | case1 w => rw [writeAll, dif_pos rfl, taking_nil]
  | case2 w octets hne next hwrite =>
    have hpos := h.accepts_pos (List.length_pos_iff.mpr hne)
    rw [h.write_eq] at hwrite
    exact absurd (congrArg Prod.fst hwrite) (Nat.ne_of_gt hpos)
  | case3 w octets hne n next hwrite hn _ ih =>
    rw [writeAll, dif_neg hne, hwrite]
    rw [h.write_eq] at hwrite
    cases hwrite
    simp only [dif_neg hn, ih (h.taking _), taking_taking, List.take_append_drop]

theorem IsWilling.flush_eq (h : w.IsWilling) : w.flush = (.ok (), w) := by
  simp only [flush, h.flushes]

end ShellDebugger.Writer
