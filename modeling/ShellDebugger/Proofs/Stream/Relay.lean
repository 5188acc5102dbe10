import ShellDebugger.Stream.Relay

/-!
# What a relay reads and sends

A source yields its octets up to its end or its first failure. Each action of a relay moves a chunk
of them from the source into the relay's hands, or hands the chunk at hand to the channel, or ends
the relay.
-/

namespace ShellDebugger.Relay

/-- The octets that a source yields before its end or its first failure. -/
def yielded : List ReadEvent → Bytes
  | [] => []
  | .octets octets :: rest => if octets.isEmpty then [] else octets ++ yielded rest
  | .interrupted :: rest => yielded rest
  | .failed :: _ => []

/-- A chunk has at least one octet and no more than a read returns. -/
def IsChunk (octets : Bytes) : Prop :=
  1 ≤ octets.length ∧ octets.length ≤ readSize

variable {source rest : List ReadEvent} {octets : Bytes}

/-- What a read comes to. -/
inductive Reads : List ReadEvent → Read → Prop
  /-- There are no more events. -/
  | ends : Reads [] (.chunk [] [])
  /-- The octets of an event are returned at once. -/
  | whole {octets : Bytes} {rest : List ReadEvent} : octets.length ≤ readSize →
      Reads (.octets octets :: rest) (.chunk octets rest)
  /-- An event has more octets than a read returns. -/
  | part {octets : Bytes} {rest : List ReadEvent} : readSize < octets.length →
      Reads (.octets octets :: rest)
        (.chunk (octets.take readSize) (.octets (octets.drop readSize) :: rest))
  | interrupted {rest : List ReadEvent} : Reads (.interrupted :: rest) (.interrupted rest)
  | failed {rest : List ReadEvent} : Reads (.failed :: rest) .failed

theorem reads_of_read {result : Read} (h : read source = result) : Reads source result := by
  subst h
  cases source with
  | nil => exact .ends
  | cons event source =>
    cases event with
    | octets all =>
      rw [read]
      split
      · next hshort => exact .whole hshort
      · next hlong => exact .part (Nat.lt_of_not_le hlong)
    | interrupted => exact .interrupted
    | failed => exact .failed

/-- When an event has more octets than a read returns, neither the read nor what it leaves is
empty. -/
theorem ne_nil_of_readSize_lt (hlong : readSize < octets.length) :
    octets ≠ [] ∧ octets.take readSize ≠ [] ∧ octets.drop readSize ≠ [] := by
  have hpos : 0 < readSize := by decide
  simp only [← List.length_pos_iff, List.length_take, List.length_drop]
  omega

/-- A read returns the next octets that the source yields, and none only at its end. -/
theorem yielded_of_read_chunk (h : read source = .chunk octets rest) :
    octets.length ≤ readSize ∧
      yielded source = if octets.isEmpty then [] else octets ++ yielded rest := by
  cases reads_of_read h with
  | ends => exact ⟨Nat.zero_le _, rfl⟩
  | whole hshort => exact ⟨hshort, rfl⟩
  | part hlong =>
    -- What is left over is read next, and as it is not empty it is no end.
    obtain ⟨hall, htaken, hleft⟩ := ne_nil_of_readSize_lt hlong
    refine ⟨List.length_take_le .., ?_⟩
    simp only [yielded, List.isEmpty_iff]
    rw [if_neg hall, if_neg htaken, if_neg hleft, ← List.append_assoc, List.take_append_drop]

theorem yielded_of_read_interrupted (h : read source = .interrupted rest) :
    yielded source = yielded rest := by
  cases reads_of_read h
  rfl

theorem yielded_of_read_failed (h : read source = .failed) : yielded source = [] := by
  cases reads_of_read h
  rfl

/-- What an action of a relay comes to. -/
inductive Moves (r : Relay) (chunks : Channel Bytes) : Relay → Channel Bytes → Prop
  /-- A chunk is read. -/
  | takes {chunk : Bytes} {rest : List ReadEvent} : r.phase = .reading → IsChunk chunk →
      yielded r.source = chunk ++ yielded rest →
      Moves r chunks { r with phase := .sending chunk, source := rest } chunks
  /-- A read is interrupted. -/
  | retries {rest : List ReadEvent} : r.phase = .reading → yielded r.source = yielded rest →
      Moves r chunks { r with source := rest } chunks
  /-- The source has nothing more to yield. -/
  | finishes : r.phase = .reading → yielded r.source = [] →
      Moves r chunks { r with phase := .ended } chunks.dropSender
  /-- The chunk at hand goes into the channel. -/
  | hands {chunk : Bytes} {chunks' : Channel Bytes} : r.phase = .sending chunk →
      chunks.send chunk = .accepted chunks' →
      Moves r chunks { r with phase := .reading, relayed := r.relayed + chunk.length } chunks'
  /-- Nobody takes the chunk at hand any more. -/
  | quits {chunk : Bytes} : r.phase = .sending chunk → chunks.send chunk = .refused →
      Moves r chunks { r with phase := .ended } chunks.dropSender

theorem moves_of_step {r r' : Relay} {chunks chunks' : Channel Bytes}
    (h : r.step chunks = some (r', chunks')) : r.Moves chunks r' chunks' := by
  unfold step at h
  split at h
  · next hphase =>
    split at h
    · next octets rest hread =>
      obtain ⟨hlength, hyielded⟩ := yielded_of_read_chunk hread
      split at h
      · next hempty =>
        cases h
        rw [if_pos hempty] at hyielded
        exact .finishes hphase hyielded
      · next hsome =>
        cases h
        rw [if_neg hsome] at hyielded
        rw [List.isEmpty_iff_length_eq_zero] at hsome
        exact .takes hphase ⟨Nat.one_le_iff_ne_zero.mpr hsome, hlength⟩ hyielded
    · next rest hread =>
      cases h
      exact .retries hphase (yielded_of_read_interrupted hread)
    · next hread =>
      cases h
      exact .finishes hphase (yielded_of_read_failed hread)
  · next chunk hphase =>
    split at h
    · next hsend =>
      cases h
      exact .hands hphase hsend
    · cases h
    · next hsend =>
      cases h
      exact .quits hphase hsend
  · cases h

end ShellDebugger.Relay
