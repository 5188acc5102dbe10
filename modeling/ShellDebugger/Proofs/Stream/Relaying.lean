import ShellDebugger.Proofs.Schedule
import ShellDebugger.Proofs.Stream.Chunks

/-!
# What a relay delivers

A relay sends into a channel while a receiver takes chunks out of it, in whatever order the two act,
and the receiver may leave at any moment. The chunks that the channel took and those that the relay
has ahead are at any time the chunks of the source, until the receiver leaves; after that nothing
more is taken. So the relay ends with the first chunks of the source delivered, as many as were
taken before the receiver left, or all of them if it stayed.
-/

namespace ShellDebugger

open Relay

/-- A relay, the channel that it sends into, and what has become of the two. -/
structure Relaying where
  relay : Relay
  chunks : Channel Bytes
  /-- The chunks that the channel took, first taken first. -/
  delivered : List Bytes
  /-- How many chunks the channel had taken when its receiver left, if it has left. -/
  closedAfter : Option Nat
  deriving DecidableEq, Repr

namespace Relaying

def ofSource (source : List ReadEvent) (capacity : Nat) : Relaying :=
  ⟨.ofSource source, .ofCapacity capacity, [], none⟩

inductive Party where
  | relay
  /-- The receiver takes a chunk. -/
  | receiver
  /-- The receiver leaves. -/
  | departure
  deriving DecidableEq, Repr

/-- One action of a party, `none` if it has to wait or has nothing left to do. -/
def act : Party → Relaying → Option Relaying
  | .relay, s =>
    (s.relay.step s.chunks).map fun (relay, chunks) ↦
      { s with
        relay := relay
        chunks := chunks
        delivered := s.delivered ++ Outlet.chunksSent s.relay relay }
  | .receiver, s =>
    match s.chunks.receive with
    | .item _ chunks => some { s with chunks := chunks }
    | .empty | .closed => none
  | .departure, s =>
    if s.chunks.receiving then
      some { s with chunks := s.chunks.dropReceiver, closedAfter := some s.delivered.length }
    else none

def totalSize (chunks : List Bytes) : Nat :=
  chunks.flatten.length

/-- The first chunks up to a number of them, or all without a limit. -/
def upTo (limit : Option Nat) (chunks : List Bytes) : List Bytes :=
  match limit with
  | none => chunks
  | some most => chunks.take most

/-! ## What every action keeps -/

/-- What was delivered are the first chunks of the source: together with those ahead it is all of
them, until the receiver leaves. -/
structure Keeps (s : Relaying) (source : List ReadEvent) : Prop where
  receiving : s.chunks.receiving = s.closedAfter.isNone
  roomy : 1 ≤ s.chunks.capacity
  relayed : s.relay.relayed = totalSize s.delivered
  opened : s.closedAfter = none → s.delivered ++ s.relay.ahead = chunksOf source
  closed : ∀ most, s.closedAfter = some most →
    most ≤ (chunksOf source).length ∧ s.delivered = (chunksOf source).take most

variable {s s' : Relaying} {source : List ReadEvent}

theorem keeps_ofSource (source : List ReadEvent) (capacity : Nat) :
    (ofSource source capacity).Keeps source where
  receiving := rfl
  roomy := Nat.le_max_right ..
  relayed := rfl
  opened _ := rfl
  closed := nofun

/-- What an action of the relay comes to. -/
theorem relay_cases (hact : act .relay s = some s') :
    ∃ relay chunks, s.relay.step s.chunks = some (relay, chunks) ∧
      s' = { s with
        relay := relay
        chunks := chunks
        delivered := s.delivered ++ Outlet.chunksSent s.relay relay } := by
  obtain ⟨⟨relay, chunks⟩, hstep, hnext⟩ := Option.map_eq_some_iff.mp hact
  exact ⟨relay, chunks, hstep, hnext.symm⟩

/-- What an action of the receiver comes to. -/
theorem receiver_cases (hact : act .receiver s = some s') :
    ∃ chunk rest, s.chunks.items = chunk :: rest ∧
      s' = { s with chunks := { s.chunks with items := rest } } := by
  simp only [act, Channel.receive] at hact
  split at hact
  · next hreceive =>
    split at hreceive
    · next hitems =>
      cases hreceive
      cases hact
      exact ⟨_, _, hitems, rfl⟩
    · split at hreceive <;> cases hreceive
  · cases hact
  · cases hact

theorem Keeps.relay (h : s.Keeps source) (hact : act .relay s = some s') : s'.Keeps source := by
  obtain ⟨relay, chunks, hstep, rfl⟩ := relay_cases hact
  obtain ⟨-, hreceiving, hcapacity, hnone, hrelayed⟩ := books_of_step hstep
  have hahead := (advances_of_step hstep).2
  rw [h.receiving] at hahead hnone
  refine ⟨hreceiving.trans h.receiving, hcapacity ▸ h.roomy, ?_, fun hopened ↦ ?_,
    fun most hclosed ↦ ?_⟩
  · rw [hrelayed, h.relayed, totalSize, totalSize, List.flatten_append, List.length_append]
  · rw [← h.opened hopened, hahead (by rw [hopened]; rfl), List.append_assoc]
  · obtain ⟨hle, hdelivered⟩ := h.closed most hclosed
    dsimp only
    rw [hnone (by rw [hclosed]; rfl), List.append_nil]
    exact ⟨hle, hdelivered⟩

theorem Keeps.departure (h : s.Keeps source) (hact : act .departure s = some s') :
    s'.Keeps source := by
  simp only [act] at hact
  split at hact
  · next hreceiving =>
    cases hact
    have hopened : s.closedAfter = none := by
      rw [h.receiving, Option.isNone_iff_eq_none] at hreceiving
      exact hreceiving
    refine ⟨rfl, h.roomy, h.relayed, nofun, fun most hmost ↦ ?_⟩
    obtain rfl := Option.some.inj hmost
    rw [← h.opened hopened]
    exact ⟨by simp, List.take_left.symm⟩
  · cases hact

theorem Keeps.act {party : Party} (h : s.Keeps source) (hact : Relaying.act party s = some s') :
    s'.Keeps source := by
  cases party with
  | relay => exact h.relay hact
  | receiver =>
    obtain ⟨chunk, rest, -, rfl⟩ := receiver_cases hact
    exact { h with }
  | departure => exact h.departure hact

theorem Keeps.play (h : s.Keeps source) (schedule : List Party) :
    (Schedule.play Relaying.act s schedule).Keeps source :=
  Schedule.play_invariant (fun _ _ _ h hact ↦ Keeps.act h hact) h schedule

theorem Keeps.delivered_prefix (h : s.Keeps source) : s.delivered <+: chunksOf source := by
  cases hclosed : s.closedAfter with
  | none =>
    rw [← h.opened hclosed]
    exact List.prefix_append ..
  | some most =>
    rw [(h.closed most hclosed).2]
    exact List.take_prefix ..

/-- A relay that has ended has delivered all that the receiver was there for. -/
theorem Keeps.delivered_eq (h : s.Keeps source) (hended : s.relay.hasEnded = true) :
    s.delivered = upTo s.closedAfter (chunksOf source) := by
  cases hclosed : s.closedAfter with
  | none =>
    have hahead : s.relay.ahead = [] := by
      rw [ahead, show s.relay.phase = .ended from beq_iff_eq.mp hended]
    rw [upTo, ← h.opened hclosed, hahead, List.append_nil]
  | some most => exact (h.closed most hclosed).2

/-! ## The end -/

/-- A relay that has not ended can act while nothing waits. -/
theorem Keeps.exists_step (h : s.Keeps source) (hitems : s.chunks.items = [])
    (hrunning : s.relay.hasEnded = false) : ∃ next, s.relay.step s.chunks = some next := by
  have hroom (chunk : Bytes) : s.chunks.send chunk ≠ .full := by
    have hcapacity : s.chunks.items.length < s.chunks.capacity := by
      rw [hitems]
      exact h.roomy
    rw [Channel.send, if_pos hcapacity]
    split <;> intro hfull <;> cases hfull
  exact Relay.exists_step (fun hphase ↦ by simp [hasEnded, hphase] at hrunning) hroom

/-- As long as the relay has not ended, it can act, or the receiver can take a chunk. -/
theorem Keeps.exists_act (h : s.Keeps source) (hrunning : s.relay.hasEnded = false) :
    ∃ party s', party ≠ .departure ∧ Relaying.act party s = some s' := by
  cases hitems : s.chunks.items with
  | nil =>
    obtain ⟨next, hstep⟩ := h.exists_step hitems hrunning
    exact ⟨.relay, _, nofun, Option.map_eq_some_iff.mpr ⟨next, hstep, rfl⟩⟩
  | cons chunk rest =>
    refine ⟨.receiver, { s with chunks := { s.chunks with items := rest } }, nofun, ?_⟩
    simp only [Relaying.act, Channel.receive, hitems]

def remaining (s : Relaying) : Nat :=
  2 * s.relay.turnsLeft + s.chunks.items.length + if s.chunks.receiving then 1 else 0

/-- With one action at most one chunk is sent. -/
theorem chunksSent_cases (relay next : Relay) :
    Outlet.chunksSent relay next = [] ∨ ∃ chunk, Outlet.chunksSent relay next = [chunk] := by
  unfold Outlet.chunksSent
  split
  · exact .inr ⟨_, rfl⟩
  · exact .inl rfl

theorem length_chunksSent_le (relay next : Relay) : (Outlet.chunksSent relay next).length ≤ 1 := by
  rcases chunksSent_cases relay next with hnone | ⟨chunk, hone⟩
  · rw [hnone]
    exact Nat.zero_le 1
  · rw [hone]
    exact Nat.le_refl 1

theorem lowers_remaining : Schedule.Lowers act remaining := by
  intro party s s' hact
  cases party with
  | relay =>
    obtain ⟨relay, chunks, hstep, rfl⟩ := relay_cases hact
    obtain ⟨hitems, hreceiving, -⟩ := books_of_step hstep
    have hlt := (advances_of_step hstep).1
    have hsent := length_chunksSent_le s.relay relay
    simp only [remaining, hitems, hreceiving, List.length_append]
    omega
  | receiver =>
    obtain ⟨chunk, rest, hitems, rfl⟩ := receiver_cases hact
    simp only [remaining, hitems, List.length_cons]
    omega
  | departure =>
    simp only [act] at hact
    split at hact
    · next hreceiving =>
      cases hact
      simp only [remaining, Channel.dropReceiver, hreceiving, List.length_nil, Bool.false_eq_true,
        if_true, if_false]
      omega
    · cases hact

/-- The relay ends, if it and the receiver have their turns again and again. -/
theorem Keeps.exists_hasEnded (h : s.Keeps source) {turns : Nat → Party}
    (hrelay : ∀ n, ∃ m, n ≤ m ∧ turns m = .relay)
    (hreceiver : ∀ n, ∃ m, n ≤ m ∧ turns m = .receiver) :
    ∃ n, (Schedule.playFirst Relaying.act s turns n).relay.hasEnded = true := by
  obtain ⟨n, hwaiting⟩ := lowers_remaining.exists_waiting turns s
  refine ⟨n, Bool.not_eq_false _ ▸ fun hrunning ↦ ?_⟩
  obtain ⟨party, s', hparty, hact⟩ := (h.play ((List.range n).map turns)).exists_act hrunning
  have hagain : ∀ k, ∃ m, k ≤ m ∧ turns m = party := by
    cases party with
    | relay => exact hrelay
    | receiver => exact hreceiver
    | departure => exact absurd rfl hparty
  have hnone : Relaying.act party (Schedule.playFirst Relaying.act s turns n) = none :=
    hwaiting party hagain
  rw [Schedule.playFirst, hact] at hnone
  cases hnone

/-! ## As many chunks as are wanted -/

theorem closedAfter_of_act {party : Party} (hparty : party ≠ .departure)
    (hact : act party s = some s') : s'.closedAfter = s.closedAfter := by
  cases party with
  | relay =>
    obtain ⟨relay, chunks, -, rfl⟩ := relay_cases hact
    rfl
  | receiver =>
    obtain ⟨chunk, rest, -, rfl⟩ := receiver_cases hact
    rfl
  | departure => exact absurd rfl hparty

theorem length_delivered_of_act {party : Party} (hact : act party s = some s') :
    s'.delivered.length ≤ s.delivered.length + 1 := by
  cases party with
  | relay =>
    obtain ⟨relay, chunks, -, rfl⟩ := relay_cases hact
    rw [List.length_append]
    exact Nat.add_le_add_left (length_chunksSent_le s.relay relay) _
  | receiver =>
    obtain ⟨chunk, rest, -, rfl⟩ := receiver_cases hact
    exact Nat.le_succ _
  | departure =>
    simp only [act] at hact
    split at hact
    · cases hact
      exact Nat.le_succ _
    · cases hact

/-- While the receiver stays, any number of chunks comes to be delivered that the source has. -/
theorem Keeps.exists_delivered (h : s.Keeps source) (hopened : s.closedAfter = none) {count : Nat}
    (hless : s.delivered.length ≤ count) (hcount : count ≤ (chunksOf source).length) :
    ∃ schedule, (Schedule.play Relaying.act s schedule).closedAfter = none ∧
      (Schedule.play Relaying.act s schedule).delivered.length = count := by
  induction hrank : s.remaining using Nat.strong_induction_on generalizing s with
  | _ rank ih =>
    subst hrank
    rcases hless.eq_or_lt with heq | hlt
    · exact ⟨[], hopened, heq⟩
    · have hrunning : s.relay.hasEnded = false := Bool.not_eq_true _ ▸ fun hended ↦ by
        have hall := h.delivered_eq hended
        rw [hopened, upTo] at hall
        rw [hall] at hlt
        omega
      obtain ⟨party, s', hparty, hact⟩ := h.exists_act hrunning
      have hsame := closedAfter_of_act hparty hact
      have hone := length_delivered_of_act hact
      obtain ⟨schedule, hclosed, hlength⟩ := ih s'.remaining (lowers_remaining party s s' hact)
        (h.act hact) (hsame.trans hopened) (by omega) rfl
      refine ⟨party :: schedule, ?_⟩
      rw [Schedule.play_cons, Schedule.turn, hact]
      exact ⟨hclosed, hlength⟩

/-- A round of a relay and of a receiver that keeps up: the relay acts, and the receiver takes the
chunk that it sent, if it sent one. -/
theorem exists_round (hitems : s.chunks.items = []) {relay : Relay} {chunks : Channel Bytes}
    (hstep : s.relay.step s.chunks = some (relay, chunks)) :
    ∃ round,
      let s' := Schedule.play act s round
      s'.relay = relay ∧ s'.chunks.items = [] ∧ s'.closedAfter = s.closedAfter ∧
        ∀ fuel, s.relay.drain s.chunks s.delivered.reverse (fuel + 1) =
          s'.relay.drain s'.chunks s'.delivered.reverse fuel := by
  let sent : Relaying :=
    { s with
      relay := relay
      chunks := chunks
      delivered := s.delivered ++ Outlet.chunksSent s.relay relay }
  have hsent : Schedule.turn act s .relay = sent := by
    rw [Schedule.turn, act, hstep]
    rfl
  have hwaiting : chunks.items = Outlet.chunksSent s.relay relay := by
    rw [(books_of_step hstep).1, hitems, List.nil_append]
  rcases chunksSent_cases s.relay relay with hnone | ⟨chunk, hone⟩
  · refine ⟨[.relay], ?_⟩
    rw [Schedule.play_cons, Schedule.play_nil, hsent]
    refine ⟨rfl, hwaiting.trans hnone, rfl, fun fuel ↦ ?_⟩
    simp only [drain, hstep, Channel.receive, hwaiting, hnone, sent, List.append_nil]
    by_cases hsenders : chunks.senders = 0
    · rw [if_pos hsenders]
    · rw [if_neg hsenders]
  · have hreceived : Schedule.turn act sent .receiver =
        { sent with chunks := { chunks with items := [] } } := by
      simp only [Schedule.turn, act, Channel.receive, sent, hwaiting, hone]
      rfl
    refine ⟨[.relay, .receiver], ?_⟩
    rw [Schedule.play_cons, hsent, Schedule.play_cons, Schedule.play_nil, hreceived]
    refine ⟨rfl, rfl, rfl, fun fuel ↦ ?_⟩
    simp only [drain, hstep, Channel.receive, hwaiting, hone, sent, List.reverse_append]
    rfl

/-- With a receiver that keeps up, the relay ends, and what was received is what was delivered. -/
theorem Keeps.exists_drain (h : s.Keeps source) (hitems : s.chunks.items = []) {fuel : Nat}
    (hfuel : s.relay.turnsLeft ≤ fuel) :
    ∃ schedule,
      let s' := Schedule.play Relaying.act s schedule
      s.relay.drain s.chunks s.delivered.reverse fuel = (s'.relay, s'.chunks, s'.delivered) ∧
        s'.relay.hasEnded = true ∧ s'.closedAfter = s.closedAfter := by
  induction fuel generalizing s with
  | zero =>
    refine ⟨[], ?_, hasEnded_of_turnsLeft_eq_zero (Nat.le_zero.mp hfuel), rfl⟩
    rw [drain, List.reverse_reverse]
    rfl
  | succ fuel ih =>
    cases hstep : s.relay.step s.chunks with
    | none =>
      refine ⟨[], ?_, Bool.not_eq_false _ ▸ fun hrunning ↦ ?_, rfl⟩
      · simp only [drain, hstep, List.reverse_reverse]
        rfl
      · obtain ⟨next, hnext⟩ := h.exists_step hitems hrunning
        rw [hstep] at hnext
        cases hnext
    | some next =>
      obtain ⟨relay, chunks⟩ := next
      have hlt := (advances_of_step hstep).1
      obtain ⟨round, hrelay, hempty, hclosed, hround⟩ := exists_round hitems hstep
      obtain ⟨schedule, hdrain, hended, hsame⟩ :=
        ih (h.play round) hempty (by rw [hrelay]; omega)
      refine ⟨round ++ schedule, ?_⟩
      rw [Schedule.play_append]
      exact ⟨(hround fuel).trans hdrain, hended, hsame.trans hclosed⟩

/-- Once the relay has ended, neither interrupted reads nor the room in the channel have made a
difference. -/
theorem Keeps.same_of_uninterrupted {source' : List ReadEvent} (h : s.Keeps source)
    (h' : s'.Keeps source') (hsame : uninterrupted source' = uninterrupted source)
    (hended : s.relay.hasEnded = true) (hended' : s'.relay.hasEnded = true)
    (hclosed : s'.closedAfter = s.closedAfter) :
    s'.delivered = s.delivered ∧ s'.relay.relayed = s.relay.relayed := by
  have hchunks : chunksOf source' = chunksOf source := by
    rw [← chunksOf_uninterrupted source', hsame, chunksOf_uninterrupted]
  have hdelivered : s'.delivered = s.delivered := by
    rw [h'.delivered_eq hended', h.delivered_eq hended, hclosed, hchunks]
  exact ⟨hdelivered, by rw [h'.relayed, h.relayed, hdelivered]⟩

/-- Any number of chunks that the source has may be taken before the receiver leaves. -/
theorem Keeps.exists_closedAfter (h : s.Keeps source) (hopened : s.closedAfter = none) {count : Nat}
    (hless : s.delivered.length ≤ count) (hcount : count ≤ (chunksOf source).length) :
    ∃ schedule, (Schedule.play Relaying.act s schedule).closedAfter = some count ∧
      (Schedule.play Relaying.act s schedule).relay.hasEnded = true := by
  obtain ⟨before, hopened', hlength⟩ := h.exists_delivered hopened hless hcount
  have h' := h.play before
  generalize hbefore : Schedule.play Relaying.act s before = s' at h' hopened' hlength
  have hreceiving : s'.chunks.receiving = true := by
    rw [h'.receiving, hopened']
    rfl
  have hleft : Relaying.act .departure s' = some
      { s' with chunks := s'.chunks.dropReceiver, closedAfter := some s'.delivered.length } := by
    rw [Relaying.act, hreceiving, if_pos rfl]
  obtain ⟨after, -, hended, hclosed⟩ := (h'.act hleft).exists_drain rfl (Nat.le_refl _)
  refine ⟨before ++ .departure :: after, ?_⟩
  rw [Schedule.play_append, hbefore, Schedule.play_cons, Schedule.turn, hleft]
  exact ⟨hclosed.trans (congrArg some hlength), hended⟩

/-- A relay that is run by itself delivers what it delivers under some schedule. -/
theorem Keeps.run_eq (h : s.Keeps source) (hrelay : s.relay = .ofSource source)
    (hitems : s.chunks.items = []) (hdelivered : s.delivered = []) :
    ∃ relay chunks,
      (Relay.ofSource source).run s.chunks = (relay, chunks, upTo s.closedAfter (chunksOf source)) ∧
        relay.hasEnded = true ∧
          relay.relayed = totalSize (upTo s.closedAfter (chunksOf source)) := by
  have hfuel : s.relay.turnsLeft ≤ s.relay.actionsLeft := by
    rw [hrelay]
    exact Nat.le_refl _
  obtain ⟨schedule, hdrain, hended, hclosed⟩ := h.exists_drain hitems hfuel
  have h' := h.play schedule
  generalize Schedule.play Relaying.act s schedule = s' at hdrain hended hclosed h'
  have hall := h'.delivered_eq hended
  rw [hclosed] at hall
  rw [hdelivered, hrelay, hall] at hdrain
  exact ⟨s'.relay, s'.chunks, hdrain, hended, by rw [h'.relayed, hall]⟩

/-! ## The result -/

/-- The chunks of a source are its octets cut into pieces of the greatest size of a read, of which
only the last of an event may be shorter. Whenever its receiver leaves, and in whatever order the
two act, a relay delivers the first of them: those that the channel took before the receiver left,
or all of them if it stayed. It relays as many octets as these have, and interrupted reads make no
difference to either. Any number of chunks may be taken before the receiver leaves, and the relay
always comes to an end: when it and its receiver have their turns again and again, and so also with
a receiver that keeps up, or that is gone from the start. -/
theorem every_schedule_delivers_first_chunks (source : List ReadEvent) :
    (∀ octets, (pieces octets).flatten = octets ∧ (∀ piece ∈ pieces octets, IsChunk piece) ∧
      ∀ piece ∈ (pieces octets).dropLast, piece.length = readSize) ∧
    (∀ capacity schedule,
      let s := Schedule.play act (ofSource source capacity) schedule
      s.delivered <+: chunksOf source ∧ s.relay.relayed = totalSize s.delivered ∧
        (s.relay.hasEnded = true → s.delivered = upTo s.closedAfter (chunksOf source)) ∧
        ∀ source' capacity' schedule', uninterrupted source' = uninterrupted source →
          let s' := Schedule.play act (ofSource source' capacity') schedule'
          s.relay.hasEnded = true → s'.relay.hasEnded = true → s'.closedAfter = s.closedAfter →
            s'.delivered = s.delivered ∧ s'.relay.relayed = s.relay.relayed) ∧
    (∀ capacity, ∀ count ≤ (chunksOf source).length, ∃ schedule,
      let s := Schedule.play act (ofSource source capacity) schedule
      s.closedAfter = some count ∧ s.relay.hasEnded = true) ∧
    (∀ capacity turns, (∀ n, ∃ m, n ≤ m ∧ turns m = Party.relay) →
      (∀ n, ∃ m, n ≤ m ∧ turns m = Party.receiver) →
        ∃ n, (Schedule.playFirst act (ofSource source capacity) turns n).relay.hasEnded = true) ∧
    ∀ capacity (isThere : Bool),
      let channel : Channel Bytes := .ofCapacity capacity
      let delivered := if isThere then chunksOf source else []
      ∃ relay chunks,
        (Relay.ofSource source).run (if isThere then channel else channel.dropReceiver) =
            (relay, chunks, delivered) ∧
          relay.hasEnded = true ∧ relay.relayed = totalSize delivered := by
  refine ⟨pieces_cut, fun capacity schedule ↦ ?_, fun capacity count hcount ↦ ?_,
    fun capacity turns ↦ (keeps_ofSource source capacity).exists_hasEnded,
    fun capacity isThere ↦ ?_⟩
  · have h := (keeps_ofSource source capacity).play schedule
    refine ⟨h.delivered_prefix, h.relayed, h.delivered_eq, ?_⟩
    intro source' capacity' schedule' hsame
    exact h.same_of_uninterrupted ((keeps_ofSource source' capacity').play schedule') hsame
  · exact (keeps_ofSource source capacity).exists_closedAfter rfl (Nat.zero_le count) hcount
  · have h := keeps_ofSource source capacity
    cases isThere with
    | true => exact h.run_eq rfl rfl rfl
    | false =>
      have hleft : act .departure (ofSource source capacity) = some
          ⟨.ofSource source, (Channel.ofCapacity capacity).dropReceiver, [], some 0⟩ := rfl
      exact (h.act hleft).run_eq rfl rfl rfl

/-- Two octets, an interrupted read, one octet more, a failure, and octets after it. -/
def sampleSource : List ReadEvent :=
  [.octets [0x61, 0x62], .interrupted, .octets [0x63], .failed, .octets [0x64]]

theorem chunksOf_sampleSource : chunksOf sampleSource = [[0x61, 0x62], [0x63]] := by
  have hpieces (octets : Bytes) (hsome : octets ≠ []) (hshort : octets.length ≤ 3) :
      pieces octets = [octets] := pieces_of_length_le hsome (Nat.le_trans hshort (by decide))
  rw [sampleSource, chunksOf_octets, chunksOf_cons rfl, chunksOf_octets, chunksOf_of_isLast rfl,
    hpieces _ (by decide) (by decide), hpieces _ (by decide) (by decide)]
  rfl

/-- The receiver leaves when one chunk was taken, while the relay has the other one at hand: this
one is not delivered, and does not count as relayed. -/
theorem every_schedule_delivers_first_chunks_one_taken :
    let s := Schedule.play act (ofSource sampleSource 1)
      [.relay, .relay, .relay, .relay, .departure, .relay]
    s.relay.hasEnded = true ∧ s.closedAfter = some 1 ∧ s.delivered = [[0x61, 0x62]] ∧
      s.relay.relayed = 2 ∧
        ∃ relay chunks, (Relay.ofSource sampleSource).run (.ofCapacity 0) =
          (relay, chunks, [[0x61, 0x62], [0x63]]) := by
  intro s
  obtain ⟨-, hplay, -, -, hrun⟩ := every_schedule_delivers_first_chunks sampleSource
  obtain ⟨-, hrelayed, hdelivered, -⟩ :=
    hplay 1 [.relay, .relay, .relay, .relay, .departure, .relay]
  have hended : s.relay.hasEnded = true := by decide
  have hclosed : s.closedAfter = some 1 := by decide
  have hfirst : s.delivered = [[0x61, 0x62]] := by
    rw [hdelivered hended, hclosed, chunksOf_sampleSource]
    rfl
  obtain ⟨relay, chunks, hall, -⟩ := hrun 0 true
  rw [if_pos rfl, if_pos rfl, chunksOf_sampleSource] at hall
  exact ⟨hended, hclosed, hfirst, hrelayed.trans (by rw [hfirst]; rfl), relay, chunks, hall⟩

end Relaying
end ShellDebugger
