import ShellDebugger.Proofs.Stream.Relay
import ShellDebugger.Proofs.Stream.Scribe
import ShellDebugger.Stream.Outflow

/-!
# Nothing is lost on the way out

The octets that a source has yielded are, in this order, those that are printed, those that the
printer has at hand, those that wait in the channel, and the chunk that the relay has at hand. Every
action of the relay and of the printer keeps this, whatever the place of printing takes, and so what
is printed is at any time a prefix of what the source yields. When both have ended without a failure
of the printer, it is all of it.
-/

namespace ShellDebugger

/-! ## Channels and scribes -/

theorem Channel.receiving_of_send_eq_refused {α : Type} {c : Channel α} {item : α}
    (h : c.send item = .refused) : c.receiving = false := by
  unfold send at h
  split at h
  · next hreceiving => simpa using hreceiving
  · split at h <;> cases h

namespace Scribe

variable {s s' : Scribe} {items items' : Channel Bytes} {accepted : List Bytes} {failed : Bool}

/-- A scribe takes items from the front of the channel or drops them all, and does nothing else to
it. -/
theorem channel_of_step (hstep : s.step items = some (s', items')) :
    items'.items <:+ items.items ∧ items'.capacity = items.capacity ∧
      items'.senders = items.senders := by
  cases moves_of_step hstep with
  | takes _ hitems =>
    rw [hitems]
    exact ⟨List.suffix_cons .., rfl, rfl⟩
  | writes | completes | flushes => exact ⟨List.suffix_refl _, rfl, rfl⟩
  | finishes | blocks | fails => exact ⟨List.nil_suffix, rfl, rfl⟩

/-- A scribe that ends without a failure has found the channel closed. -/
theorem senders_eq_zero_of_step (hstep : s.step items = some (s', items'))
    (hended : s'.phase = .ended) (hfailing : s.isFailing = false) : items.senders = 0 := by
  cases moves_of_step hstep with
  | finishes _ _ hsenders => exact hsenders
  | takes | writes | completes | flushes => cases hended
  | blocks hphase hrest hwrite => cases (isFailing_of_write hphase hrest hwrite).symm.trans hfailing
  | fails hphase hflush => cases (isFailing_of_flush hphase hflush).symm.trans hfailing

/-- As long as the scribe has not ended it takes items. -/
theorem Books.ended_of_receiving_eq_false (h : s.Books items accepted failed)
    (hreceiving : items.receiving = false) : s.phase = .ended := by
  obtain ⟨done, part, -, -, haccounts⟩ := h
  obtain ⟨phase, writer, written⟩ := s
  cases phase with
  | ended => rfl
  | receiving | writing | flushing =>
    rw [haccounts.1] at hreceiving
    cases hreceiving

end Scribe

/-! ## Relays -/

/-- Where the octets of a stream are when `sent` have been sent: what a phase has at hand, and what
the source still yields. The relay is the one sender until it ends, and unless the printer has
failed it ends only after the whole stream. -/
def Relay.Accounts (r : Relay) (senders : Nat) (sent stream : Bytes) (failed : Bool) : Prop :=
  match r.phase with
  | .reading => sent ++ yielded r.source = stream ∧ senders = 1
  | .sending chunk => IsChunk chunk ∧ sent ++ (chunk ++ yielded r.source) = stream ∧ senders = 1
  | .ended => sent <+: stream ∧ (failed = false → sent = stream)

section Relay

variable {r : Relay} {senders : Nat} {sent stream : Bytes} {failed : Bool}

theorem Relay.Accounts.sent_prefix (h : r.Accounts senders sent stream failed) :
    sent <+: stream := by
  obtain ⟨phase, source, relayed⟩ := r
  cases phase with
  | reading =>
    obtain ⟨rfl, -⟩ := h
    exact List.prefix_append ..
  | sending chunk =>
    obtain ⟨-, rfl, -⟩ := h
    exact List.prefix_append ..
  | ended => exact h.1

theorem Relay.Accounts.senders_eq_one (h : r.Accounts senders sent stream failed)
    (hphase : r.phase ≠ .ended) : senders = 1 := by
  obtain ⟨phase, source, relayed⟩ := r
  cases phase with
  | reading => exact h.2
  | sending chunk => exact h.2.2
  | ended => exact absurd rfl hphase

/-- That the printer fails later takes nothing from what is known of the relay. -/
theorem Relay.Accounts.or_failed (h : r.Accounts senders sent stream failed) (failing : Bool) :
    r.Accounts senders sent stream (failed || failing) := by
  obtain ⟨phase, source, relayed⟩ := r
  cases phase with
  | reading | sending chunk => exact h
  | ended => exact ⟨h.1, fun hnone ↦ h.2 (Bool.or_eq_false_iff.mp hnone).1⟩

end Relay

namespace Outflow

/-! ## Failures of the printer -/

def failsAt (o : Outflow) : Party → Bool
  | .printer => o.printer.isFailing
  | .relay | .terminal _ => false

/-- Whether the printer fails to write or to flush under a schedule. -/
def fails (o : Outflow) : List Party → Bool
  | [] => false
  | party :: rest => o.failsAt party || (Schedule.turn act o party).fails rest

/-! ## What every turn keeps -/

/-- The octets of a stream are on their way through a channel with room for `limit` chunks, in order
and each once. -/
structure Flows (o : Outflow) (stream : Bytes) (limit : Nat) (failed : Bool) : Prop where
  booked : ∃ accepted, accepted.flatten = o.sent ∧ o.printer.Books o.chunks accepted failed
  carried : o.relay.Accounts o.chunks.senders o.sent stream failed
  counted : o.relay.relayed = o.sent.length
  capacity_eq : o.chunks.capacity = limit
  bounded : o.chunks.items.length ≤ limit
  chunked : ∀ chunk ∈ o.chunks.items, Relay.IsChunk chunk
  attended : failed = false → o.printer.phase = .ended → o.relay.phase = .ended

variable {o o' : Outflow} {stream : Bytes} {limit : Nat} {failed : Bool}

theorem flows_ofSource (source : List ReadEvent) (capacity : Nat) {writer : Writer}
    (hnothing : writer.taken = []) :
    (ofSource source capacity writer).Flows (Relay.yielded source) (max capacity 1) false where
  booked := ⟨[], rfl, Scribe.books_ofWriter hnothing capacity⟩
  carried := ⟨rfl, rfl⟩
  counted := rfl
  capacity_eq := rfl
  bounded := Nat.zero_le _
  chunked := List.forall_mem_nil _
  attended _ := nofun

/-- As long as the relay acts, the printer takes chunks, unless it has failed. -/
theorem Flows.not_refused (h : o.Flows stream limit failed) (hphase : o.relay.phase ≠ .ended)
    (hfailed : failed = false) {chunk : Bytes} : o.chunks.send chunk ≠ .refused := by
  intro hrefused
  obtain ⟨accepted, -, hbooks⟩ := h.booked
  have hended := hbooks.ended_of_receiving_eq_false (Channel.receiving_of_send_eq_refused hrefused)
  exact hphase (h.attended hfailed hended)

/-- A relay that ends after the whole stream, or after the printer has failed, leaves everything
else. -/
theorem Flows.relay_ended (h : o.Flows stream limit failed)
    (hsent : failed = false → o.sent = stream) :
    Flows { o with relay := { o.relay with phase := .ended }, chunks := o.chunks.dropSender } stream
      limit failed where
  booked := by
    obtain ⟨accepted, haccepted, hbooks⟩ := h.booked
    exact ⟨accepted, haccepted, hbooks.of_senders _⟩
  carried := ⟨h.carried.sent_prefix, hsent⟩
  counted := h.counted
  capacity_eq := h.capacity_eq
  bounded := h.bounded
  chunked := h.chunked
  attended _ _ := rfl

/-- A chunk that the channel takes is sent. -/
theorem Flows.send (h : o.Flows stream limit failed) {chunk : Bytes} {chunks : Channel Bytes}
    (hphase : o.relay.phase = .sending chunk) (hsend : o.chunks.send chunk = .accepted chunks) :
    Flows
      { o with
        relay := ⟨.reading, o.relay.source, o.relay.relayed + chunk.length⟩
        chunks := chunks
        sent := o.sent ++ chunk } stream limit failed := by
  have hcarried := h.carried
  unfold Relay.Accounts at hcarried
  rw [hphase] at hcarried
  obtain ⟨hchunk, hstream, hsenders⟩ := hcarried
  obtain ⟨accepted, haccepted, hbooks⟩ := h.booked
  obtain ⟨-, hroom, rfl⟩ := Channel.send_eq_accepted_iff.mp hsend
  rw [h.capacity_eq] at hroom
  exact {
    booked := ⟨accepted ++ [chunk], by rw [List.flatten_concat, haccepted], hbooks.send hsend⟩
    carried := ⟨(List.append_assoc ..).trans hstream, hsenders⟩
    counted := by rw [List.length_append, ← h.counted]
    capacity_eq := h.capacity_eq
    bounded := by
      rw [List.length_append, List.length_singleton]
      exact hroom
    chunked := List.forall_mem_append.mpr ⟨h.chunked, List.forall_mem_singleton.mpr hchunk⟩
    attended := fun hfailed hended ↦ absurd (h.attended hfailed hended) (by simp [hphase]) }

/-- A relay that has no chunk at hand, or that ends, hands nothing over. -/
theorem handedOver_eq_nil {relay next : Relay}
    (hphase : relay.phase = .reading ∨ next.phase = .ended) : handedOver relay next = [] := by
  unfold handedOver
  rcases hphase with hphase | hphase <;> simp [hphase]

theorem Flows.relay (h : o.Flows stream limit failed) {relay : Relay} {chunks : Channel Bytes}
    (hmoves : o.relay.Moves o.chunks relay chunks) :
    Flows { o with relay := relay, chunks := chunks, sent := o.sent ++ handedOver o.relay relay }
      stream limit failed := by
  have hcarried := h.carried
  unfold Relay.Accounts at hcarried
  cases hmoves with
  | takes hphase hchunk hyielded =>
    rw [handedOver_eq_nil (.inl hphase), List.append_nil]
    rw [hphase, hyielded] at hcarried
    obtain ⟨hstream, hsenders⟩ := hcarried
    exact { h with
      carried := ⟨hchunk, hstream, hsenders⟩
      attended := fun hfailed hended ↦ absurd (h.attended hfailed hended) (by simp [hphase]) }
  | retries hphase hyielded =>
    rw [handedOver_eq_nil (.inl hphase), List.append_nil]
    rw [hphase, hyielded] at hcarried
    exact { h with
      carried := by
        unfold Relay.Accounts
        rwa [hphase] }
  | finishes hphase hyielded =>
    rw [handedOver_eq_nil (.inl hphase), List.append_nil]
    rw [hphase, hyielded, List.append_nil] at hcarried
    exact h.relay_ended fun _ ↦ hcarried.1
  | @hands chunk chunks' hphase hsend =>
    have hhanded (relayed : Nat) :
        handedOver o.relay ⟨.reading, o.relay.source, relayed⟩ = chunk := by
      simp [handedOver, hphase]
    rw [hhanded]
    exact h.send hphase hsend
  | quits hphase hsend =>
    rw [handedOver_eq_nil (.inr rfl), List.append_nil]
    have hrunning : o.relay.phase ≠ .ended := by simp [hphase]
    exact h.relay_ended fun hfailed ↦ absurd hsend (h.not_refused hrunning hfailed)

theorem Flows.printer (h : o.Flows stream limit failed) {printer : Scribe} {chunks : Channel Bytes}
    (hstep : o.printer.step o.chunks = some (printer, chunks)) :
    Flows { o with printer := printer, chunks := chunks } stream limit
      (failed || o.printer.isFailing) := by
  obtain ⟨accepted, haccepted, hbooks⟩ := h.booked
  obtain ⟨hitems, hcapacity, hsenders⟩ := Scribe.channel_of_step hstep
  refine ⟨⟨accepted, haccepted, hbooks.step hstep⟩, ?_, h.counted, hcapacity.trans h.capacity_eq,
    Nat.le_trans hitems.length_le h.bounded, fun chunk hchunk ↦ ?_, fun hfailed hended ↦ ?_⟩
  · rw [hsenders]
    exact h.carried.or_failed _
  · exact h.chunked chunk (hitems.subset hchunk)
  · -- The printer found the channel closed, and only the relay can have closed it.
    obtain ⟨-, hfailing⟩ := Bool.or_eq_false_iff.mp hfailed
    have hclosed := Scribe.senders_eq_zero_of_step hstep hended hfailing
    by_cases hphase : o.relay.phase = .ended
    · exact hphase
    · rw [h.carried.senders_eq_one hphase] at hclosed
      cases hclosed

/-- Whatever a party does in its turn, the octets are still on their way. -/
theorem Flows.turn (h : o.Flows stream limit failed) (party : Party) :
    (Schedule.turn act o party).Flows stream limit (failed || o.failsAt party) := by
  unfold Schedule.turn
  cases party with
  | relay =>
    rw [failsAt, Bool.or_false]
    cases hstep : o.relay.step o.chunks with
    | none => simpa [act, hstep] using h
    | some next =>
      obtain ⟨relay, chunks⟩ := next
      simpa [act, hstep] using h.relay (Relay.moves_of_step hstep)
  | printer =>
    cases hstep : o.printer.step o.chunks with
    | none =>
      rw [failsAt, Scribe.not_isFailing_of_step_eq_none hstep, Bool.or_false]
      simpa [act, hstep] using h
    | some next =>
      obtain ⟨printer, chunks⟩ := next
      simpa [act, hstep, failsAt] using h.printer hstep
  | terminal writer =>
    rw [failsAt, Bool.or_false]
    obtain ⟨accepted, haccepted, hbooks⟩ := h.booked
    exact { h with booked := ⟨accepted, haccepted, hbooks.of_taken rfl⟩ }

theorem Flows.play (h : o.Flows stream limit failed) (schedule : List Party) :
    (Schedule.play act o schedule).Flows stream limit (failed || o.fails schedule) := by
  induction schedule generalizing o failed with
  | nil => simpa [fails] using h
  | cons party rest ih =>
    have hrest := ih (h.turn party)
    rw [Bool.or_assoc] at hrest
    exact hrest

/-- What is printed is a prefix of the stream. -/
theorem Flows.printed_prefix (h : o.Flows stream limit failed) : o.printed <+: stream := by
  obtain ⟨accepted, haccepted, hbooks⟩ := h.booked
  have hprinted : o.printed <+: o.sent := haccepted ▸ hbooks.taken_prefix_flatten
  exact hprinted.trans h.carried.sent_prefix

/-- When the relay and the printer have ended, and the printer has not failed, the whole stream is
printed. -/
theorem Flows.printed_eq (h : o.Flows stream limit false) (hrelay : o.relay.phase = .ended)
    (hprinter : o.printer.phase = .ended) :
    o.printed = stream ∧ o.relay.relayed = stream.length := by
  obtain ⟨accepted, haccepted, hbooks⟩ := h.booked
  have hcarried := h.carried
  unfold Relay.Accounts at hcarried
  rw [hrelay] at hcarried
  have hsent : o.sent = stream := hcarried.2 rfl
  constructor
  · calc
      o.printed = accepted.flatten := (hbooks.complete hprinter).1
      _ = o.sent := haccepted
      _ = stream := hsent
  · rw [h.counted, hsent]

/-- Whatever the source meets and the place of printing takes, and in whatever order the relay and
the printer act: what is printed is at any time a prefix of what the source yields before its end or
its first failure, and no more chunks wait than the channel has room for, each with at least one
octet and no more than a read returns. When both have ended and the printer never failed to write or
to flush, all that the source yields is printed, and the relay has counted it. -/
theorem printed_prefix_yielded (source : List ReadEvent) (capacity : Nat) {writer : Writer}
    (hnothing : writer.taken = []) (schedule : List Party) :
    let start := ofSource source capacity writer
    let o := Schedule.play act start schedule
    o.printed <+: Relay.yielded source ∧
      o.chunks.items.length ≤ max capacity 1 ∧
      (∀ chunk ∈ o.chunks.items, 1 ≤ chunk.length ∧ chunk.length ≤ 8192) ∧
      (o.relay.hasEnded = true → o.printer.hasEnded = true → start.fails schedule = false →
        o.printed = Relay.yielded source ∧ o.relay.relayed = (Relay.yielded source).length) := by
  intro start o
  have hflows : o.Flows (Relay.yielded source) (max capacity 1) (start.fails schedule) := by
    have hplayed := (flows_ofSource source capacity hnothing).play schedule
    rwa [Bool.false_or] at hplayed
  refine ⟨hflows.printed_prefix, hflows.bounded, hflows.chunked, fun hrelay hprinter hfails ↦ ?_⟩
  rw [hfails] at hflows
  exact hflows.printed_eq (beq_iff_eq.mp hrelay) (beq_iff_eq.mp hprinter)

/-- Two chunks and an interrupted read, through a channel with room for one chunk, to a place that
takes one octet at a time at first: the relay has to wait, and all is printed. -/
theorem printed_prefix_yielded_two_chunks :
    let source : List ReadEvent := [.octets [0x61, 0x62], .interrupted, .octets [0x63]]
    let writer : Writer := ⟨some 1, none, none, []⟩
    let schedule : List Party :=
      [.relay, .relay, .relay, .relay, .relay, .printer, .printer, .relay, .relay, .printer,
        .terminal .unlimited, .printer, .printer, .printer, .printer, .printer, .printer, .printer]
    (ofSource source 0 writer).fails schedule = false ∧
      ∃ o, o = Schedule.play act (ofSource source 0 writer) schedule ∧
        o.relay.hasEnded = true ∧ o.printer.hasEnded = true ∧
        o.printed = [0x61, 0x62, 0x63] ∧ o.relay.relayed = 3 := by
  intro source writer schedule
  have hrelay : (Schedule.play act (ofSource source 0 writer) schedule).relay.hasEnded = true := by
    decide
  have hprinter :
      (Schedule.play act (ofSource source 0 writer) schedule).printer.hasEnded = true := by
    decide
  have hfails : (ofSource source 0 writer).fails schedule = false := by decide
  have hyielded : Relay.yielded source = [0x61, 0x62, 0x63] := by decide
  have hnothing : writer.taken = [] := rfl
  obtain ⟨-, -, -, hcomplete⟩ := printed_prefix_yielded source 0 hnothing schedule
  have hdone := hcomplete hrelay hprinter hfails
  rw [hyielded] at hdone
  exact ⟨hfails, _, rfl, hrelay, hprinter, hdone⟩

end Outflow
end ShellDebugger
