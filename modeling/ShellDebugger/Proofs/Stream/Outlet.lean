import Mathlib.Data.Option.Basic
import ShellDebugger.Proofs.Stream.Outflow
import ShellDebugger.Stream.Outlet

/-!
# The books of an outlet

Whatever the relays, the printer and the runtime do, and whenever a relay is started or given up,
the chunks that the relays have sent are on the books of the printer, and the senders of the channel
are those of the program and those of the relays that have not ended. So nothing that was sent gets
lost as long as the printer goes on, and the printer cannot come to a halt before the last sender is
gone.
-/

namespace ShellDebugger

/-! ## What the books say of a scribe that has not failed -/

namespace Scribe

variable {s : Scribe} {items : Channel Bytes} {accepted : List Bytes} {failed : Bool}

/-- The items that are written come first. Behind them there is at most one more than wait, unless
the scribe has failed. -/
theorem Accounts.exists_behind {phase : Phase} {done : List Bytes} {part : Bytes}
    (h : Accounts phase items accepted done part failed) :
    ∃ behind, accepted = done ++ behind ∧
      (failed = false → behind.length ≤ items.items.length + 1) := by
  cases phase with
  | receiving =>
    obtain ⟨-, -, -, haccepted⟩ := h
    exact ⟨items.items, haccepted, fun _ ↦ Nat.le_succ _⟩
  | writing rest =>
    obtain ⟨-, -, haccepted⟩ := h
    exact ⟨(part ++ rest) :: items.items, haccepted, fun _ ↦ Nat.le_refl _⟩
  | flushing =>
    obtain ⟨-, -, haccepted⟩ := h
    exact ⟨part :: items.items, haccepted, fun _ ↦ Nat.le_refl _⟩
  | ended =>
    obtain ⟨-, ⟨-, -, haccepted⟩ | ⟨rfl, rest, lost, haccepted⟩⟩ := h
    · exact ⟨[], by rw [haccepted, List.append_nil], fun _ ↦ Nat.zero_le _⟩
    · exact ⟨(part ++ rest) :: lost, haccepted, nofun⟩

/-- Of what was accepted, at most one item is at hand; the others are written, or they wait. -/
theorem Books.length_accepted_le (h : s.Books items accepted false) :
    accepted.length ≤ s.written + items.items.length + 1 := by
  obtain ⟨done, part, -, hwritten, haccounts⟩ := h
  obtain ⟨behind, rfl, hbehind⟩ := haccounts.exists_behind
  rw [hwritten, List.length_append, Nat.add_assoc]
  exact Nat.add_le_add_left (hbehind rfl) _

/-- The items that count as written come first, and they are written in full. -/
theorem Books.written_prefix_taken (h : s.Books items accepted failed) :
    (accepted.take s.written).flatten <+: s.writer.taken := by
  obtain ⟨done, part, htaken, hwritten, haccounts⟩ := h
  obtain ⟨behind, rfl, -⟩ := haccounts.exists_behind
  rw [hwritten, List.take_left, htaken]
  exact List.prefix_append done.flatten part

/-- A scribe that has not ended can act, unless it waits for an item and a sender is left. -/
theorem exists_step (hrunning : s.phase ≠ .ended)
    (hitem : s.phase = .receiving → items.items ≠ [] ∨ items.senders = 0) :
    ∃ next, s.step items = some next := by
  obtain ⟨phase, writer, written⟩ := s
  cases phase with
  | receiving =>
    simp only [step, Channel.receive]
    cases hitems : items.items with
    | nil =>
      have hsenders : items.senders = 0 := (hitem rfl).resolve_left fun hne ↦ hne hitems
      simp [hsenders]
    | cons item waiting => exact ⟨_, rfl⟩
  | writing rest =>
    simp only [step]
    split
    · exact ⟨_, rfl⟩
    · split <;> exact ⟨_, rfl⟩
  | flushing =>
    simp only [step]
    split <;> exact ⟨_, rfl⟩
  | ended => exact absurd rfl hrunning

end Scribe

/-- A relay that has not ended can act, unless it waits for room in the channel. -/
theorem Relay.exists_step {r : Relay} {chunks : Channel Bytes} (hrunning : r.phase ≠ .ended)
    (hroom : ∀ chunk, chunks.send chunk ≠ .full) : ∃ next, r.step chunks = some next := by
  obtain ⟨phase, source, relayed⟩ := r
  cases phase with
  | reading =>
    simp only [step]
    split
    · split <;> exact ⟨_, rfl⟩
    · exact ⟨_, rfl⟩
    · exact ⟨_, rfl⟩
  | sending chunk =>
    simp only [step]
    split
    · exact ⟨_, rfl⟩
    · next hfull => exact absurd hfull (hroom chunk)
    · exact ⟨_, rfl⟩
  | ended => exact absurd rfl hrunning

namespace Outlet

/-- A relay that has no chunk at hand, or that ends, sends nothing. -/
theorem chunksSent_eq_nil {relay next : Relay}
    (hphase : relay.phase = .reading ∨ next.phase = .ended) : chunksSent relay next = [] := by
  unfold chunksSent
  rcases hphase with hphase | hphase <;> simp [hphase]

/-- A relay that goes on to read sends the chunk at hand. -/
theorem chunksSent_eq_singleton {relay next : Relay} {chunk : Bytes}
    (hphase : relay.phase = .sending chunk) (hnext : next.phase = .reading) :
    chunksSent relay next = [chunk] := by
  simp [chunksSent, hphase, hnext]

/-! ## What every action keeps -/

def running (inlets : List Inlet) : Nat :=
  inlets.countP fun inlet ↦ !inlet.relay.hasEnded

def failsAt (o : Outlet) : Party → Bool
  | .printer => o.printer.isFailing
  | .relay _ | .runtime _ | .terminal _ => false

/-- The chunks that were sent are on the printer's books, no more of them wait than there is room
for, and apart from the relays that have not ended there are `own` senders. -/
structure Keeps (o : Outlet) (limit own : Nat) (failed : Bool) : Prop where
  booked : o.printer.Books o.chunks o.sent failed
  capacity_eq : o.chunks.capacity = limit
  bounded : o.chunks.items.length ≤ limit
  counted : o.chunks.senders = own + running o.inlets

variable {o : Outlet} {limit own : Nat} {failed : Bool} {index : Nat} {inlet : Inlet}

theorem keeps_ofCapacity (capacity : Nat) :
    (ofCapacity capacity).Keeps (max capacity 1) 1 false where
  booked := Scribe.books_ofWriter rfl capacity
  capacity_eq := rfl
  bounded := Nat.zero_le _
  counted := rfl

/-- To replace one relay makes no other difference than that between the two. -/
theorem running_set {inlets : List Inlet} (hinlet : inlets[index]? = some inlet) (next : Inlet) :
    running (inlets.set index next) + (if inlet.relay.hasEnded then 0 else 1) =
      running inlets + if next.relay.hasEnded then 0 else 1 := by
  obtain ⟨hindex, hget⟩ := List.getElem?_eq_some_iff.mp hinlet
  rw [running, running, List.countP_set hindex, hget]
  cases hended : inlet.relay.hasEnded with
  | true => cases next.relay.hasEnded <;> simp
  | false =>
    have hpos : 0 < inlets.countP fun inlet ↦ !inlet.relay.hasEnded :=
      List.countP_pos_iff.mpr ⟨inlet, List.mem_of_getElem? hinlet, by rw [hended]; rfl⟩
    cases next.relay.hasEnded <;> simp <;> omega

/-- A relay that ends gives its sender back. -/
theorem Keeps.detach (h : o.Keeps limit own failed) (hinlet : o.inlets[index]? = some inlet)
    {next : Inlet} (hrunning : inlet.relay.hasEnded = false) (hended : next.relay.hasEnded = true) :
    Keeps { o with inlets := o.inlets.set index next, chunks := o.chunks.dropSender } limit own
      failed where
  booked := h.booked.of_senders _
  capacity_eq := h.capacity_eq
  bounded := h.bounded
  counted := by
    have hcount : running (o.inlets.set index next) + 1 = running o.inlets + 0 := by
      simpa [hrunning, hended] using running_set hinlet next
    change o.chunks.senders - 1 = own + running (o.inlets.set index next)
    rw [h.counted]
    omega

/-- A relay that goes on keeps its sender. -/
theorem Keeps.proceed (h : o.Keeps limit own failed) (hinlet : o.inlets[index]? = some inlet)
    {next : Inlet} (hrunning : inlet.relay.hasEnded = false)
    (hgoesOn : next.relay.hasEnded = false) :
    Keeps { o with inlets := o.inlets.set index next } limit own failed where
  booked := h.booked
  capacity_eq := h.capacity_eq
  bounded := h.bounded
  counted := by
    have hcount : running (o.inlets.set index next) = running o.inlets := by
      simpa [hrunning, hgoesOn] using running_set hinlet next
    change o.chunks.senders = own + running (o.inlets.set index next)
    rw [h.counted, hcount]

/-- A chunk that the channel takes gets onto the books. -/
theorem Keeps.send (h : o.Keeps limit own failed) {chunk : Bytes} {chunks : Channel Bytes}
    (hsend : o.chunks.send chunk = .accepted chunks) :
    Keeps { o with chunks := chunks, sent := o.sent ++ [chunk] } limit own failed := by
  have hbooked := h.booked.send hsend
  obtain ⟨-, hroom, rfl⟩ := Channel.send_eq_accepted_iff.mp hsend
  refine ⟨hbooked, h.capacity_eq, ?_, h.counted⟩
  rw [h.capacity_eq] at hroom
  rw [List.length_append, List.length_singleton]
  exact hroom

theorem Keeps.relay (h : o.Keeps limit own failed) (hinlet : o.inlets[index]? = some inlet)
    {relay : Relay} {chunks : Channel Bytes} (hmoves : inlet.relay.Moves o.chunks relay chunks) :
    Keeps
      { o with
        inlets := o.inlets.set index { inlet with relay := relay }
        chunks := chunks
        sent := o.sent ++ chunksSent inlet.relay relay } limit own failed := by
  have hrunning {phase : Relay.Phase} (hphase : inlet.relay.phase = phase) (hne : phase ≠ .ended) :
      inlet.relay.hasEnded = false := by
    rw [Relay.hasEnded, hphase]
    exact beq_false_of_ne hne
  cases hmoves with
  | takes hphase hchunk hyielded =>
    rw [chunksSent_eq_nil (.inl hphase), List.append_nil]
    exact h.proceed hinlet (hrunning hphase nofun) rfl
  | retries hphase hyielded =>
    rw [chunksSent_eq_nil (.inl hphase), List.append_nil]
    exact h.proceed hinlet (hrunning hphase nofun) (hrunning hphase nofun)
  | finishes hphase hyielded =>
    rw [chunksSent_eq_nil (.inl hphase), List.append_nil]
    exact h.detach hinlet (hrunning hphase nofun) rfl
  | hands hphase hsend =>
    rw [chunksSent_eq_singleton hphase rfl]
    exact (h.send hsend).proceed hinlet (hrunning hphase nofun) rfl
  | quits hphase hsend =>
    rw [chunksSent_eq_nil (.inr rfl), List.append_nil]
    exact h.detach hinlet (hrunning hphase nofun) rfl

theorem Keeps.printer (h : o.Keeps limit own failed) {printer : Scribe} {chunks : Channel Bytes}
    (hstep : o.printer.step o.chunks = some (printer, chunks)) :
    Keeps { o with printer := printer, chunks := chunks } limit own
      (failed || o.printer.isFailing) := by
  obtain ⟨hitems, hcapacity, hsenders⟩ := Scribe.channel_of_step hstep
  refine ⟨h.booked.step hstep, hcapacity.trans h.capacity_eq, ?_, hsenders.trans h.counted⟩
  exact Nat.le_trans hitems.length_le h.bounded

/-- Whatever a party does, the books are kept. -/
theorem Keeps.act (h : o.Keeps limit own failed) {party : Party} {o' : Outlet}
    (hact : o.act party = some o') : o'.Keeps limit own (failed || o.failsAt party) := by
  cases party with
  | relay index =>
    obtain ⟨inlet, hinlet, hact⟩ := Option.bind_eq_some_iff.mp hact
    obtain ⟨⟨relay, chunks⟩, hstep, hact⟩ := Option.bind_eq_some_iff.mp hact
    cases hact
    rw [failsAt, Bool.or_false]
    exact h.relay hinlet (Relay.moves_of_step hstep)
  | printer =>
    obtain ⟨⟨printer, chunks⟩, hstep, hact⟩ := Option.bind_eq_some_iff.mp hact
    cases hact
    exact h.printer hstep
  | runtime index =>
    obtain ⟨inlet, hinlet, hact⟩ := Option.bind_eq_some_iff.mp hact
    obtain ⟨_, hguard, hact⟩ := Option.bind_eq_some_iff.mp hact
    cases hact
    have hrunning : inlet.relay.hasEnded = false :=
      eq_false_of_ne_true fun hended ↦ by simp [guard, hended] at hguard
    rw [failsAt, Bool.or_false]
    exact h.detach hinlet hrunning rfl
  | terminal writer =>
    cases hact
    rw [failsAt, Bool.or_false]
    exact { h with booked := h.booked.of_taken rfl }

theorem failsAt_eq_false {party : Party} (hact : o.act party = none) : o.failsAt party = false := by
  cases party with
  | printer =>
    cases hstep : o.printer.step o.chunks with
    | none => exact Scribe.not_isFailing_of_step_eq_none hstep
    | some next => simp [Outlet.act, hstep] at hact
  | relay | runtime | terminal => rfl

/-- A printer that has ended does nothing any more. -/
theorem phase_eq_ended_of_act {party : Party} {o' : Outlet} (hact : o.act party = some o')
    (hended : o.printer.phase = .ended) : o'.printer.phase = .ended := by
  cases party with
  | relay index =>
    obtain ⟨inlet, -, hact⟩ := Option.bind_eq_some_iff.mp hact
    obtain ⟨next, -, hact⟩ := Option.bind_eq_some_iff.mp hact
    cases hact
    exact hended
  | printer => simp [Outlet.act, Scribe.step, hended] at hact
  | runtime index =>
    obtain ⟨inlet, -, hact⟩ := Option.bind_eq_some_iff.mp hact
    obtain ⟨-, -, hact⟩ := Option.bind_eq_some_iff.mp hact
    cases hact
    exact hended
  | terminal writer =>
    cases hact
    exact hended

/-! ## What the program does -/

theorem Keeps.attach (h : o.Keeps limit own failed) (child : ChildId) (source : List ReadEvent) :
    (o.attach child source).Keeps limit own failed where
  booked := h.booked.of_senders _
  capacity_eq := h.capacity_eq
  bounded := h.bounded
  counted := by
    change o.chunks.senders + 1 = own + running (o.inlets ++ [⟨child, .ofSource source, false⟩])
    rw [h.counted, running, running, List.countP_append]
    rfl

theorem Keeps.abandon (h : o.Keeps limit own failed) (child : ChildId) :
    (o.abandon child).Keeps limit own failed where
  booked := h.booked
  capacity_eq := h.capacity_eq
  bounded := h.bounded
  counted := by
    change o.chunks.senders = own + running (o.inlets.map _)
    rw [h.counted, running, running, List.countP_map]
    rfl

theorem Keeps.dropSink (h : o.Keeps limit (own + 1) failed) :
    o.dropSink.Keeps limit own failed where
  booked := h.booked.of_senders _
  capacity_eq := h.capacity_eq
  bounded := h.bounded
  counted := by
    change o.chunks.senders - 1 = own + running o.inlets
    rw [h.counted]
    omega

/-! ## What follows -/

/-- What is printed is a prefix of what was sent. -/
theorem Keeps.printed_prefix (h : o.Keeps limit own failed) : o.printed <+: o.sent.flatten :=
  h.booked.taken_prefix_flatten

/-- A printer that has ended without a failure has printed all that was sent. -/
theorem Keeps.printed_eq (h : o.Keeps limit own false) (hended : o.printer.phase = .ended) :
    o.printed = o.sent.flatten ∧ o.printer.written = o.sent.length :=
  h.booked.complete hended

/-- A printer that has not failed is behind by the chunk at hand and by those that wait. -/
theorem Keeps.length_sent_le (h : o.Keeps limit own false) :
    o.sent.length ≤ o.printer.written + limit + 1 :=
  Nat.le_trans h.booked.length_accepted_le
    (Nat.succ_le_succ (Nat.add_le_add_left h.bounded _))

/-- Once the program has dropped its sender, the printer can act until it has ended, or else a relay
for which it waits can. -/
theorem Keeps.exists_act (h : o.Keeps limit 0 failed) (hlimit : 0 < limit)
    (hrunning : o.printer.phase ≠ .ended) :
    (∃ o', o.act .printer = some o') ∨ ∃ index o', o.act (.relay index) = some o' := by
  by_cases hwaits : o.printer.phase = .receiving ∧ o.chunks.items = [] ∧ o.chunks.senders ≠ 0
  · obtain ⟨-, hempty, hsenders⟩ := hwaits
    rw [h.counted, Nat.zero_add, running] at hsenders
    obtain ⟨inlet, hmem, hnot⟩ := List.countP_pos_iff.mp (Nat.pos_of_ne_zero hsenders)
    obtain ⟨index, hinlet⟩ := List.getElem?_of_mem hmem
    have hphase : inlet.relay.phase ≠ .ended := by
      intro hphase
      simp [Relay.hasEnded, hphase] at hnot
    have hroom (chunk : Bytes) : o.chunks.send chunk ≠ .full := by
      rw [Channel.send, hempty, List.length_nil, h.capacity_eq, if_pos hlimit]
      split <;> nofun
    obtain ⟨⟨relay, chunks⟩, hstep⟩ := Relay.exists_step hphase hroom
    exact .inr ⟨index, by simp [Outlet.act, hinlet, hstep]⟩
  · have hitem (hreceiving : o.printer.phase = .receiving) :
        o.chunks.items ≠ [] ∨ o.chunks.senders = 0 :=
      Decidable.byContradiction fun hnone ↦ by
        obtain ⟨hempty, hsenders⟩ := not_or.mp hnone
        exact hwaits ⟨hreceiving, Decidable.not_not.mp hempty, hsenders⟩
    obtain ⟨⟨printer, chunks⟩, hstep⟩ := Scribe.exists_step hrunning hitem
    exact .inl (by simp [Outlet.act, hstep])

end Outlet
end ShellDebugger
