import ShellDebugger.Proofs.Stream.Writer

/-!
# Writers that stop

A writer takes the first octets of what it is offered, up to its capacity, and nothing after that.
How the octets are divided into calls makes no difference: neither to what it has taken in the end
nor to whether all was taken.
-/

namespace ShellDebugger.Writer

/-- The number of octets that a writer will take, or `none` if nothing stops it. -/
def capacity (w : Writer) : Option Nat :=
  if w.perCall = some 0 then some 0 else w.room

/-- The writer when it has been offered octets again and again until it took no more. -/
def offered (w : Writer) (octets : Bytes) : Writer :=
  let n := bounded octets.length w.capacity
  { w with room := w.room.map (· - n), taken := w.taken ++ octets.take n }

/-- A writer will take all of a number of octets. -/
def HasRoomFor (w : Writer) (n : Nat) : Prop :=
  bounded n w.capacity = n

instance (w : Writer) (n : Nat) : Decidable (w.HasRoomFor n) :=
  inferInstanceAs (Decidable (_ = _))

variable {w : Writer} {n : Nat}

/-! ## Capacity -/

theorem hasRoomFor_iff_of_capacity {most : Nat} (h : w.capacity = some most) :
    w.HasRoomFor n ↔ n ≤ most := by
  simp only [HasRoomFor, h, bounded]
  omega

theorem hasRoomFor_of_capacity (h : w.capacity = none) : w.HasRoomFor n := by
  simp [HasRoomFor, h, bounded]

/-- A writer that takes some octets with each call takes as many as there is room for. -/
theorem hasRoomFor_iff_of_perCall (h : w.perCall ≠ some 0) :
    w.HasRoomFor n ↔ ∀ most ∈ w.room, n ≤ most := by
  rw [HasRoomFor, capacity, if_neg h]
  cases w.room with
  | none => simp [bounded]
  | some most =>
    simp only [bounded, Option.mem_some_iff, forall_eq']
    omega

theorem IsWilling.capacity_eq (h : w.IsWilling) : w.capacity = none := by
  simp [capacity, h.perCall, h.room]

theorem IsWilling.offered_eq (h : w.IsWilling) (octets : Bytes) :
    w.offered octets = w.taking octets := by
  simp [offered, Writer.taking, h.capacity_eq, h.room, bounded]

theorem taken_offered_of_capacity {most : Nat} (h : w.capacity = some most) (octets : Bytes) :
    (w.offered octets).taken = w.taken ++ octets.take (min most octets.length) := by
  simp [offered, h, bounded, Nat.min_comm]

theorem HasRoomFor.taken_offered {octets : Bytes} (h : w.HasRoomFor octets.length) :
    (w.offered octets).taken = w.taken ++ octets := by
  have hall : bounded octets.length w.capacity = octets.length := h
  simp [offered, hall]

/-- Octets that are offered use up the capacity. -/
theorem capacity_offered (w : Writer) (octets : Bytes) :
    (w.offered octets).capacity = w.capacity.map (· - octets.length) := by
  unfold capacity offered
  by_cases hcall : w.perCall = some 0
  · simp [hcall]
  · cases hroom : w.room with
    | none => simp [hcall]
    | some room => simp [hcall, hroom, capacity, bounded]; omega

theorem hasRoomFor_add (w : Writer) (octets : Bytes) (n : Nat) :
    w.HasRoomFor (octets.length + n) ↔
      w.HasRoomFor octets.length ∧ (w.offered octets).HasRoomFor n := by
  unfold HasRoomFor
  rw [capacity_offered]
  cases hcapacity : w.capacity with
  | none => simp [bounded]
  | some most => simp [bounded]; omega

/-! ## Octets one after another -/

theorem hasRoomFor_zero (w : Writer) : w.HasRoomFor 0 := by
  unfold HasRoomFor
  cases w.capacity <;> simp [bounded]

@[simp] theorem offered_nil (w : Writer) : w.offered [] = w := by
  have hnone : bounded 0 w.capacity = 0 := w.hasRoomFor_zero
  have hroom : w.room.map (· - 0) = w.room := Option.map_id'
  simp only [offered, List.length_nil, hnone, hroom, List.take_nil, List.append_nil]

theorem offered_of_capacity_zero (h : w.capacity = some 0) (octets : Bytes) :
    w.offered octets = w := by
  have hnone : bounded octets.length w.capacity = bounded 0 w.capacity := by
    simp [h, bounded]
  calc w.offered octets
    _ = w.offered [] := by
      rw [offered, hnone]
      simp [offered, h, bounded]
    _ = w := w.offered_nil

theorem bounded_add (m n : Nat) (most : Option Nat) :
    bounded (m + n) most = bounded m most + bounded n (most.map (· - m)) := by
  cases most with
  | none => rfl
  | some most => simp only [bounded, Option.map_some]; omega

/-- What two stretches of octets, the second after the first, have in common with a limit. -/
theorem take_bounded_append (first rest : Bytes) (most : Option Nat) :
    (first ++ rest).take (bounded (first.length + rest.length) most) =
      first.take (bounded first.length most) ++
        rest.take (bounded rest.length (most.map (· - first.length))) := by
  rw [List.take_append]
  congr 1
  · rw [List.take_eq_take_iff]
    cases most <;> simp only [bounded] <;> omega
  · rw [List.take_eq_take_iff]
    cases most <;> simp only [bounded, Option.map_none, Option.map_some] <;> omega

theorem offered_append (w : Writer) (first rest : Bytes) :
    w.offered (first ++ rest) = (w.offered first).offered rest := by
  have hroom (m n : Nat) : (w.room.map (· - m)).map (· - n) = w.room.map (· - (m + n)) := by
    cases w.room <;> simp [Nat.sub_sub]
  rw [offered, List.length_append, take_bounded_append, bounded_add, ← hroom, ← List.append_assoc,
    ← capacity_offered]
  rfl

/-- A writer that is full takes nothing of what comes next. -/
theorem offered_append_of_full {first : Bytes} (h : ¬ w.HasRoomFor first.length) (rest : Bytes) :
    w.offered (first ++ rest) = w.offered first := by
  cases hcapacity : w.capacity with
  | none => exact absurd (hasRoomFor_of_capacity hcapacity) h
  | some most =>
    rw [hasRoomFor_iff_of_capacity hcapacity, Nat.not_le] at h
    have hlength : bounded (first ++ rest).length w.capacity =
        bounded first.length w.capacity := by
      simp only [hcapacity, bounded, List.length_append]
      omega
    have htake : (first ++ rest).take (bounded first.length w.capacity) =
        first.take (bounded first.length w.capacity) := by
      rw [hcapacity]
      exact List.take_append_of_le_length (Nat.min_le_left _ _)
    simp only [offered, hlength, htake]

/-! ## Writing -/

theorem accepts_le (w : Writer) (n : Nat) : w.accepts n ≤ n := by
  unfold accepts
  cases w.perCall <;> cases w.room <;> simp only [bounded] <;> omega

/-- A call takes no more than there is room for. -/
theorem hasRoomFor_accepts (w : Writer) (n : Nat) : w.HasRoomFor (w.accepts n) := by
  unfold HasRoomFor capacity accepts
  by_cases hcall : w.perCall = some 0
  · rw [if_pos hcall, hcall]
    cases w.room <;> simp only [bounded] <;> omega
  · rw [if_neg hcall]
    cases w.room with
    | none => rfl
    | some room => simp only [bounded]; omega

/-- Only a writer that takes nothing any more takes none of some octets. -/
theorem capacity_of_accepts_eq_zero (hn : 0 < n) (h : w.accepts n = 0) : w.capacity = some 0 := by
  unfold capacity
  by_cases hcall : w.perCall = some 0
  · rw [if_pos hcall]
  · rw [if_neg hcall]
    unfold accepts at h
    cases hroom : w.room <;> cases hmost : w.perCall <;>
      simp only [hroom, hmost, bounded, Option.some.injEq] at h hcall ⊢ <;> omega

/-- One call takes the octets that it accepts. -/
theorem write_eq (w : Writer) (octets : Bytes) :
    w.write octets =
      (w.accepts octets.length, w.offered (octets.take (w.accepts octets.length))) := by
  have hlength : (octets.take (w.accepts octets.length)).length = w.accepts octets.length :=
    List.length_take_of_le (w.accepts_le _)
  have hall : bounded (w.accepts octets.length) w.capacity = w.accepts octets.length :=
    w.hasRoomFor_accepts _
  simp only [write, offered, hlength, hall, List.take_take, Nat.min_self]

/-- Writing all octets comes to offering them, in whatever calls, and succeeds if and only if there
is room for them. -/
theorem writeAll_eq (w : Writer) (octets : Bytes) :
    w.writeAll octets =
      (if w.HasRoomFor octets.length then .ok () else .error .shortWrite, w.offered octets) := by
  induction w, octets using writeAll.induct with
  | case1 w => rw [writeAll, dif_pos rfl, offered_nil, List.length_nil, if_pos w.hasRoomFor_zero]
  | case2 w octets hne next hwrite =>
    have hlength := List.length_pos_iff.mpr hne
    rw [w.write_eq, Prod.mk.injEq] at hwrite
    have hcapacity := capacity_of_accepts_eq_zero hlength hwrite.1
    have hroom : ¬ w.HasRoomFor octets.length := by
      rw [hasRoomFor_iff_of_capacity hcapacity]
      exact Nat.not_le.mpr hlength
    rw [writeAll, dif_neg hne, write_eq]
    simp only [hwrite.1, dif_pos, offered_of_capacity_zero hcapacity, if_neg hroom]
  | case3 w octets hne n next hwrite hn _ ih =>
    rw [w.write_eq, Prod.mk.injEq] at hwrite
    obtain ⟨hcount, rfl⟩ := hwrite
    rw [hcount] at ih
    have hoctets : octets.take n ++ octets.drop n = octets := List.take_append_drop n octets
    have hfirst : w.HasRoomFor (octets.take n).length := by
      rw [List.length_take_of_le (hcount ▸ w.accepts_le _), ← hcount]
      exact w.hasRoomFor_accepts _
    have hroom : w.HasRoomFor octets.length ↔
        (w.offered (octets.take n)).HasRoomFor (octets.drop n).length := by
      rw [← congrArg List.length hoctets, List.length_append, hasRoomFor_add,
        and_iff_right hfirst]
    calc w.writeAll octets
      _ = (w.offered (octets.take n)).writeAll (octets.drop n) := by
        rw [writeAll, dif_neg hne, write_eq]
        simp only [hcount, dif_neg hn]
      _ = _ := by
        rw [ih, ← offered_append, hoctets]
        simp only [hroom]

end ShellDebugger.Writer
