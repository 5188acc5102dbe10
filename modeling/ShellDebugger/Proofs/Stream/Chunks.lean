import ShellDebugger.Proofs.Stream.Outlet

/-!
# The chunks of a source

A source is read in chunks: its octets come cut into pieces as long as a read may be, and the last
piece of each event is as long as what is left. A read that is interrupted makes no difference to
them. Each action of a relay leaves fewer actions, and while somebody receives, the relay has the
chunks of its source ahead of it that it has not sent yet.
-/

namespace ShellDebugger

namespace Relay

/-! ## Pieces -/

/-- Octets cut into pieces as long as a read may be; the last one is as long as what is left. -/
def pieces (octets : Bytes) : List Bytes :=
  if octets.isEmpty then []
  else octets.take readSize :: pieces (octets.drop readSize)
termination_by octets.length
decreasing_by
  have hpos : 0 < readSize := by decide
  rw [List.length_drop]
  rename_i hsome
  rw [List.isEmpty_iff_length_eq_zero] at hsome
  omega

variable {octets : Bytes}

theorem pieces_nil : pieces [] = [] := by
  rw [pieces, List.isEmpty_nil, if_pos rfl]

theorem pieces_of_ne_nil (hsome : octets ≠ []) :
    pieces octets = octets.take readSize :: pieces (octets.drop readSize) := by
  rw [pieces, if_neg (by simpa using hsome)]

theorem pieces_of_length_le (hsome : octets ≠ []) (hshort : octets.length ≤ readSize) :
    pieces octets = [octets] := by
  rw [pieces_of_ne_nil hsome, List.take_of_length_le hshort, List.drop_eq_nil_of_le hshort,
    pieces_nil]

/-- All the pieces are chunks, those before the last as long as a read may be, and together they are
the octets. -/
theorem pieces_cut (octets : Bytes) :
    (pieces octets).flatten = octets ∧ (∀ piece ∈ pieces octets, IsChunk piece) ∧
      ∀ piece ∈ (pieces octets).dropLast, piece.length = readSize := by
  induction octets using pieces.induct with
  | case1 octets hnone =>
    rw [List.isEmpty_iff.mp hnone, pieces_nil]
    exact ⟨rfl, nofun, nofun⟩
  | case2 octets hsome ih =>
    obtain ⟨hflatten, hchunks, hfull⟩ := ih
    have hsome : octets ≠ [] := by simpa using hsome
    have hpos := List.length_pos_iff.mpr hsome
    have hlength : (octets.take readSize).length = min readSize octets.length :=
      List.length_take
    have hsize : 0 < readSize := by decide
    rw [pieces_of_ne_nil hsome]
    refine ⟨?_, List.forall_mem_cons.mpr ⟨⟨by omega, by omega⟩, hchunks⟩, ?_⟩
    · rw [List.flatten_cons, hflatten, List.take_append_drop]
    · -- A piece with another one after it was cut off something longer.
      cases hrest : pieces (octets.drop readSize) with
      | nil => exact nofun
      | cons next rest =>
        have hmore : octets.drop readSize ≠ [] := by
          intro hnil
          rw [hnil, pieces_nil] at hrest
          cases hrest
        have hlong := List.length_pos_iff.mpr hmore
        rw [List.length_drop] at hlong
        rw [hrest] at hfull
        rw [List.dropLast_cons_of_ne_nil (by simp)]
        exact List.forall_mem_cons.mpr ⟨by omega, hfull⟩

end Relay

namespace ReadEvent

/-- Whether reading a source comes to an end at an event: it reads as the end of the stream, or it
fails. -/
def isLast : ReadEvent → Bool
  | .octets all => all.isEmpty
  | .interrupted => false
  | .failed => true

def pieces : ReadEvent → List Bytes
  | .octets all => Relay.pieces all
  | .interrupted | .failed => []

end ReadEvent

namespace Relay

/-- The chunks of a source: the pieces of all its events before the one at which it ends. -/
def chunksOf (source : List ReadEvent) : List Bytes :=
  (source.takeWhile (!·.isLast)).flatMap ReadEvent.pieces

/-- The source without the reads that are interrupted. -/
def uninterrupted (source : List ReadEvent) : List ReadEvent :=
  source.filter (· != .interrupted)

variable {source rest : List ReadEvent} {octets : Bytes}

theorem chunksOf_of_isLast {event : ReadEvent} (hlast : event.isLast = true)
    (rest : List ReadEvent) : chunksOf (event :: rest) = [] := by
  rw [chunksOf, List.takeWhile_cons_of_neg (by simp [hlast])]
  rfl

theorem chunksOf_cons {event : ReadEvent} (hgoes : event.isLast = false)
    (rest : List ReadEvent) : chunksOf (event :: rest) = event.pieces ++ chunksOf rest := by
  rw [chunksOf, List.takeWhile_cons_of_pos (by simp [hgoes]), List.flatMap_cons]
  rfl

theorem chunksOf_octets (octets : Bytes) (rest : List ReadEvent) :
    chunksOf (.octets octets :: rest) =
      if octets.isEmpty then [] else pieces octets ++ chunksOf rest := by
  cases hempty : octets.isEmpty with
  | true =>
    have hlast : (ReadEvent.octets octets).isLast = true := hempty
    exact chunksOf_of_isLast hlast rest
  | false =>
    have hgoes : (ReadEvent.octets octets).isLast = false := hempty
    exact chunksOf_cons hgoes rest

/-- Interrupted reads make no difference to the chunks. -/
theorem chunksOf_uninterrupted (source : List ReadEvent) :
    chunksOf (uninterrupted source) = chunksOf source := by
  induction source with
  | nil => rfl
  | cons event source ih =>
    by_cases hinterrupted : event = .interrupted
    · subst hinterrupted
      rw [chunksOf_cons rfl, uninterrupted, List.filter_cons_of_neg (by simp)]
      exact ih
    · rw [uninterrupted, List.filter_cons_of_pos (by simpa using hinterrupted)]
      cases hlast : event.isLast with
      | true => rw [chunksOf_of_isLast hlast, chunksOf_of_isLast hlast]
      | false =>
        rw [chunksOf_cons hlast, chunksOf_cons hlast, ← ih]
        rfl

/-! ## Reads -/

/-- A read returns the next chunk of the source, and none only at its end. -/
theorem chunksOf_of_read_chunk (h : read source = .chunk octets rest) :
    chunksOf source = if octets.isEmpty then [] else octets :: chunksOf rest := by
  cases reads_of_read h with
  | ends => rfl
  | whole hshort =>
    rw [chunksOf_octets]
    split
    · rfl
    · next hsome =>
      rw [pieces_of_length_le (by simpa using hsome) hshort]
      rfl
  | part hlong =>
    -- The pieces after the first are those of what is left over, which is not empty.
    obtain ⟨hall, htaken, hleft⟩ := ne_nil_of_readSize_lt hlong
    simp only [chunksOf_octets, List.isEmpty_iff, if_neg hall, if_neg htaken, if_neg hleft,
      pieces_of_ne_nil hall, List.cons_append]

theorem chunksOf_of_read_interrupted (h : read source = .interrupted rest) :
    chunksOf source = chunksOf rest := by
  cases reads_of_read h
  exact chunksOf_cons rfl _

theorem chunksOf_of_read_failed (h : read source = .failed) : chunksOf source = [] := by
  cases reads_of_read h
  exact chunksOf_of_isLast rfl _

theorem actionsLeft_cons (event : ReadEvent) (source : List ReadEvent) :
    (ofSource (event :: source)).actionsLeft =
      actionsFor event + (ofSource source).actionsLeft := rfl

/-- A read that is not the last leaves at least two actions fewer. -/
theorem actionsLeft_of_read
    (h : (∃ octets ≠ [], read source = .chunk octets rest) ∨ read source = .interrupted rest) :
    (ofSource rest).actionsLeft + 2 ≤ (ofSource source).actionsLeft := by
  rcases h with ⟨octets, hsome, h⟩ | h
  · cases reads_of_read h with
    | ends => exact absurd rfl hsome
    | whole =>
      simp only [actionsLeft_cons, actionsFor, readSize]
      omega
    | part hlong =>
      simp only [actionsLeft_cons, actionsFor, List.length_drop, readSize] at hlong ⊢
      omega
  · cases reads_of_read h
    simp only [actionsLeft_cons, actionsFor]
    omega

/-! ## Actions -/

/-- The chunks that a relay has not sent yet. -/
def ahead (r : Relay) : List Bytes :=
  match r.phase with
  | .reading => chunksOf r.source
  | .sending chunk => chunk :: chunksOf r.source
  | .ended => []

def turnsLeft (r : Relay) : Nat :=
  match r.phase with
  | .reading => r.actionsLeft
  | .sending _ => r.actionsLeft + 1
  | .ended => 0

variable {r r' : Relay} {chunks chunks' : Channel Bytes}

theorem four_le_actionsLeft (source : List ReadEvent) : 4 ≤ (ofSource source).actionsLeft := by
  induction source with
  | nil => exact Nat.le_refl 4
  | cons event source ih => exact Nat.le_add_left_of_le ih

theorem hasEnded_of_turnsLeft_eq_zero (h : r.turnsLeft = 0) : r.hasEnded = true := by
  obtain ⟨phase, source, relayed⟩ := r
  cases phase with
  | reading =>
    have hnone : (ofSource source).actionsLeft = 0 := h
    have hsome := four_le_actionsLeft source
    omega
  | sending chunk => cases h
  | ended => rfl

/-- While somebody receives, an action sends the first of the chunks ahead, or none. -/
theorem advances_of_step (h : r.step chunks = some (r', chunks')) :
    r'.turnsLeft < r.turnsLeft ∧
      (chunks.receiving = true → r.ahead = Outlet.chunksSent r r' ++ r'.ahead) := by
  obtain ⟨phase, source, relayed⟩ := r
  unfold step at h
  cases phase with
  | reading =>
    dsimp only at h
    split at h
    · next octets rest hread =>
      have hchunks := chunksOf_of_read_chunk hread
      split at h
      · next hempty =>
        cases h
        rw [if_pos hempty] at hchunks
        exact ⟨Nat.lt_of_lt_of_le (Nat.zero_lt_succ 3) (four_le_actionsLeft source),
          fun _ ↦ hchunks⟩
      · next hsome =>
        cases h
        rw [if_neg hsome] at hchunks
        have hless := actionsLeft_of_read (.inl ⟨octets, by simpa using hsome, hread⟩)
        refine ⟨?_, fun _ ↦ hchunks⟩
        change (ofSource rest).actionsLeft + 1 < (ofSource source).actionsLeft
        omega
    · next rest hread =>
      cases h
      have hless := actionsLeft_of_read (.inr hread)
      refine ⟨?_, fun _ ↦ chunksOf_of_read_interrupted hread⟩
      change (ofSource rest).actionsLeft < (ofSource source).actionsLeft
      omega
    · next hread =>
      cases h
      exact ⟨Nat.lt_of_lt_of_le (Nat.zero_lt_succ 3) (four_le_actionsLeft source),
        fun _ ↦ chunksOf_of_read_failed hread⟩
  | sending chunk =>
    dsimp only at h
    split at h
    · cases h
      exact ⟨Nat.lt_succ_self _, fun _ ↦ rfl⟩
    · cases h
    · next hsend =>
      cases h
      refine ⟨Nat.succ_pos _, fun hreceiving ↦ ?_⟩
      rw [Channel.receiving_of_send_eq_refused hsend] at hreceiving
      cases hreceiving
  | ended => cases h

/-- The channel gets what an action sends, and that counts as relayed. When nobody receives, nothing
is sent. -/
theorem books_of_step (h : r.step chunks = some (r', chunks')) :
    chunks'.items = chunks.items ++ Outlet.chunksSent r r' ∧
      chunks'.receiving = chunks.receiving ∧ chunks'.capacity = chunks.capacity ∧
      (chunks.receiving = false → Outlet.chunksSent r r' = []) ∧
      r'.relayed = r.relayed + (Outlet.chunksSent r r').flatten.length := by
  cases moves_of_step h with
  | takes hphase | retries hphase | finishes hphase =>
    rw [Outlet.chunksSent_eq_nil (.inl hphase), List.append_nil]
    exact ⟨rfl, rfl, rfl, fun _ ↦ rfl, rfl⟩
  | quits =>
    rw [Outlet.chunksSent_eq_nil (.inr rfl), List.append_nil]
    exact ⟨rfl, rfl, rfl, fun _ ↦ rfl, rfl⟩
  | hands hphase hsend =>
    obtain ⟨hreceiving, -, rfl⟩ := Channel.send_eq_accepted_iff.mp hsend
    rw [Outlet.chunksSent_eq_singleton hphase rfl]
    exact ⟨rfl, rfl, rfl, fun hleft ↦ by simp [hreceiving] at hleft, by simp⟩

end Relay
end ShellDebugger
