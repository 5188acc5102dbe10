import ShellDebugger.Proofs.Schedule
import ShellDebugger.Proofs.Stream.Outlet
import ShellDebugger.Proofs.Stream.Serving
import ShellDebugger.Stream.Feeding

/-!
# What comes of feeding

What comes of the items that are not done yet is the same after every action of the sender and of
the scribe. Every action brings a bound on the actions that are left down, so that every schedule
comes to an end, and they all come to the same result, however little a call takes and however short
the queue is.
-/

namespace ShellDebugger.Feeding

open Scribe

/-! ## What every action keeps -/

/-- What a sender and a scribe will come to. Until the scribe has ended, it is what comes of the
items that it has not done yet. -/
structure ComesTo (f : Feeding) (outcome : Outcome) : Prop where
  receiving : f.items.receiving = !f.scribe.hasEnded
  refused : f.refused = true → f.scribe.hasEnded = true
  closed : f.items.senders = 0 → f.scribe.hasEnded = false → f.unsent = []
  roomy : 1 ≤ f.items.capacity
  ahead : f.scribe.hasEnded = false →
    serve f.scribe.writer f.scribe.written (f.scribe.atHand ++ (f.items.items ++ f.unsent)) =
      outcome
  done : f.scribe.hasEnded = true →
    f.scribe.written = outcome.written ∧ f.scribe.writer.taken = outcome.taken ∧
      (f.items.senders ≠ 0 → outcome.failed = true)

variable {f f' : Feeding} {outcome : Outcome} {items : List Bytes} {capacity : Nat}
  {writer : Writer}

theorem comesTo_ofItems (items : List Bytes) (capacity : Nat) (writer : Writer) :
    (ofItems items capacity writer).ComesTo (serve writer 0 items) where
  receiving := rfl
  refused := nofun
  closed := nofun
  roomy := Nat.le_max_right ..
  ahead _ := rfl
  done := nofun

/-- What an action of the sender comes to. -/
theorem sender_cases (hact : act .sender f = some f') :
    ∃ item rest, f.unsent = item :: rest ∧ f.refused = false ∧
      ((∃ items, f.items.send item = .accepted items ∧
          f' = { f with unsent := rest, items := items }) ∨
        (f.items.send item = .refused ∧ f' = { f with refused := true })) := by
  simp only [act] at hact
  split at hact
  · next item rest hrefused hunsent =>
    refine ⟨item, rest, hunsent, hrefused, ?_⟩
    split at hact
    · next items hsend =>
      cases hact
      exact .inl ⟨items, hsend, rfl⟩
    · cases hact
    · next hsend =>
      cases hact
      exact .inr ⟨hsend, rfl⟩
  · cases hact

/-- What an action of the scribe comes to. -/
theorem scribe_cases (hact : act .scribe f = some f') :
    ∃ scribe items, f.scribe.Moves f.items scribe items ∧
      f' = { f with scribe := scribe, items := items } := by
  obtain ⟨⟨scribe, items⟩, hstep, hnext⟩ := Option.map_eq_some_iff.mp hact
  exact ⟨scribe, items, moves_of_step hstep, hnext.symm⟩

/-- The sender moves items into the channel, which makes no difference to what comes of them. -/
theorem ComesTo.sender (h : f.ComesTo outcome) (hact : act .sender f = some f') :
    f'.ComesTo outcome := by
  obtain ⟨item, rest, hunsent, hrefused, ⟨items, hsend, rfl⟩ | ⟨hsend, rfl⟩⟩ := sender_cases hact
  · obtain ⟨hreceiving, -, rfl⟩ := Channel.send_eq_accepted_iff.mp hsend
    have hrunning : f.scribe.hasEnded = false := by
      rw [← Bool.not_eq_true', ← h.receiving, hreceiving]
    refine { h with closed := fun hsenders _ ↦ ?_, ahead := fun _ ↦ ?_, done := fun hended ↦ ?_ }
    · rw [h.closed hsenders hrunning] at hunsent
      cases hunsent
    · have hahead := h.ahead hrunning
      rw [hunsent] at hahead
      rw [← hahead, List.append_assoc]
      rfl
    · rw [hrunning] at hended
      cases hended
  · have hended : f.scribe.hasEnded = true := by
      have hreceiving := h.receiving
      rw [Channel.receiving_of_send_eq_refused hsend] at hreceiving
      simpa using hreceiving
    exact { h with refused := fun _ ↦ hended }

theorem comesTo_of_hasEnded (hended : f.scribe.hasEnded = true)
    (hreceiving : f.items.receiving = false) (hroomy : 1 ≤ f.items.capacity)
    (hdone : f.scribe.written = outcome.written ∧ f.scribe.writer.taken = outcome.taken ∧
      (f.items.senders ≠ 0 → outcome.failed = true)) : f.ComesTo outcome where
  receiving := by
    rw [hended, hreceiving]
    rfl
  refused _ := hended
  closed _ hrunning := by simp [hended] at hrunning
  roomy := hroomy
  ahead hrunning := by simp [hended] at hrunning
  done _ := hdone

/-- The scribe does what is ahead, and when it ends that is done. -/
theorem ComesTo.scribe (h : f.ComesTo outcome) (hact : act .scribe f = some f') :
    f'.ComesTo outcome := by
  obtain ⟨scribe, items, hmoves, rfl⟩ := scribe_cases hact
  obtain ⟨hrunning, hcases⟩ := hmoves.serve_cases f.unsent
  have hahead := h.ahead hrunning
  rcases hcases with ⟨hgoes, ⟨left, rfl⟩, hserve⟩ | ⟨hended, rfl, hserve⟩ |
    ⟨hended, rfl, hsenders, hserve⟩
  · refine ⟨?_, fun hrefused ↦ ?_, fun hsenders _ ↦ h.closed hsenders hrunning, h.roomy,
      fun _ ↦ hserve.trans hahead, fun hended ↦ ?_⟩
    · rw [hgoes, ← hrunning]
      exact h.receiving
    · rw [h.refused hrefused] at hrunning
      cases hrunning
    · rw [hgoes] at hended
      cases hended
  · obtain rfl := hserve.symm.trans hahead
    exact comesTo_of_hasEnded hended rfl h.roomy ⟨rfl, rfl, fun _ ↦ rfl⟩
  · rw [h.closed hsenders hrunning, List.append_nil, hserve] at hahead
    subst hahead
    exact comesTo_of_hasEnded hended rfl h.roomy ⟨rfl, rfl, fun hsome ↦ absurd hsenders hsome⟩

theorem ComesTo.act {party : Party} (h : f.ComesTo outcome) (hact : Feeding.act party f = some f') :
    f'.ComesTo outcome := by
  cases party with
  | sender => exact h.sender hact
  | scribe => exact h.scribe hact

theorem ComesTo.play (h : f.ComesTo outcome) (schedule : List Party) :
    (Schedule.play Feeding.act f schedule).ComesTo outcome :=
  Schedule.play_invariant (fun _ _ _ h hact ↦ ComesTo.act h hact) h schedule

/-- The sender lets go of the channel, which closes it. -/
def close (f : Feeding) : Feeding :=
  { f with items := f.items.dropSender }

/-- Once all items were sent or one was refused, the channel may be closed. -/
theorem ComesTo.close (h : f.ComesTo outcome) (hsent : f.unsent = [] ∨ f.refused = true) :
    f.close.ComesTo outcome where
  receiving := h.receiving
  refused := h.refused
  closed _ hrunning := hsent.resolve_right fun hrefused ↦
    Bool.eq_false_iff.mp hrunning (h.refused hrefused)
  roomy := h.roomy
  ahead := h.ahead
  done hended := by
    obtain ⟨hwritten, htaken, hfailed⟩ := h.done hended
    refine ⟨hwritten, htaken, fun hsenders ↦ hfailed fun hnone ↦ hsenders ?_⟩
    simp only [Feeding.close, Channel.dropSender, hnone]

/-! ## The end -/

/-- While the scribe runs and can be sent to, the sender can send. -/
theorem ComesTo.unsent_eq_nil (h : f.ComesTo outcome) (hrunning : f.scribe.hasEnded = false)
    (hitems : f.items.items = []) (hover : Feeding.act .sender f = none) : f.unsent = [] := by
  cases hunsent : f.unsent with
  | nil => rfl
  | cons item rest =>
    have hrefused : f.refused = false := by
      cases hrefused : f.refused with
      | false => rfl
      | true =>
        rw [h.refused hrefused] at hrunning
        cases hrunning
    have hreceiving : f.items.receiving = true := by rw [h.receiving, hrunning]; rfl
    have hroom : f.items.items.length < f.items.capacity := by
      rw [hitems]
      exact h.roomy
    have hsend : f.items.send item = .accepted { f.items with items := f.items.items ++ [item] } :=
      Channel.send_eq_accepted_iff.mpr ⟨hreceiving, hroom, rfl⟩
    simp only [Feeding.act, hrefused, hunsent, hsend] at hover
    cases hover

/-- When nobody can act any more, it has come to that. The scribe has ended if the channel is
closed, and otherwise if it has failed. -/
theorem ComesTo.of_isOver (h : f.ComesTo outcome) (hover : Schedule.IsOver Feeding.act f) :
    f.scribe.written = outcome.written ∧ f.scribe.writer.taken = outcome.taken ∧
      f.scribe.hasEnded = (f.items.senders == 0 || outcome.failed) := by
  have hstep : f.scribe.step f.items = none := Option.map_eq_none_iff.mp (hover .scribe)
  cases hended : f.scribe.hasEnded with
  | true =>
    obtain ⟨hwritten, htaken, hfailed⟩ := h.done hended
    refine ⟨hwritten, htaken, ?_⟩
    by_cases hsenders : f.items.senders = 0
    · rw [hsenders]
      rfl
    · rw [hfailed hsenders, Bool.or_true]
  | false =>
    have hrunning : f.scribe.phase ≠ .ended := fun hphase ↦ by simp [hasEnded, hphase] at hended
    -- A scribe that cannot act waits for an item, and a sender that cannot act has none.
    have hwaits : ¬ (f.scribe.phase = .receiving → f.items.items ≠ [] ∨ f.items.senders = 0) := by
      intro hcan
      obtain ⟨next, hnext⟩ := exists_step hrunning hcan
      rw [hstep] at hnext
      cases hnext
    obtain ⟨hphase, hneither⟩ := Classical.not_imp.mp hwaits
    obtain ⟨hitems, hsenders⟩ := not_or.mp hneither
    rw [not_not] at hitems
    have hahead := h.ahead hended
    rw [h.unsent_eq_nil hended hitems (hover .sender), hitems, List.append_nil] at hahead
    simp only [atHand, hphase] at hahead
    subst hahead
    exact ⟨rfl, rfl, by simpa [serve] using hsenders⟩

/-! ## Every schedule comes to an end -/

def remaining (f : Feeding) : Nat :=
  actionsForAll f.unsent + f.unsent.length + f.scribe.remaining f.items +
    if f.refused then 0 else 1

theorem lowers_remaining : Schedule.Lowers act remaining := by
  intro party f f' hact
  cases party with
  | sender =>
    obtain ⟨item, rest, hunsent, hrefused, ⟨items, hsend, rfl⟩ | ⟨hsend, rfl⟩⟩ := sender_cases hact
    · obtain ⟨-, -, rfl⟩ := Channel.send_eq_accepted_iff.mp hsend
      have hall : actionsForAll (item :: rest) = actionsForAll [item] + actionsForAll rest :=
        actionsForAll_append [item] rest
      simp only [remaining, remaining_eq, hunsent, hall, actionsForAll_append, List.length_cons]
      omega
    · simp [remaining, hrefused]
  | scribe =>
    obtain ⟨scribe, items, hmoves, rfl⟩ := scribe_cases hact
    have hlt := hmoves.remaining_lt
    simp only [remaining]
    omega

theorem one_le_remaining (f : Feeding) : 1 ≤ f.remaining := by
  simp only [remaining, remaining_eq]
  split <;> omega

theorem remaining_le (f : Feeding) : f.remaining ≤ f.actionsLeft + 1 := by
  simp only [remaining, Scribe.remaining, actionsLeft]
  split <;> split <;> omega

/-- Played for long enough, with the sender first or in whatever order, it comes to an end. -/
theorem playFor_isOver {turns : Nat} (h : f.remaining ≤ turns + 1) :
    Schedule.IsOver act (f.playFor turns) ∧
      ∃ schedule, f.playFor turns = Schedule.play act f schedule := by
  induction turns generalizing f with
  | zero =>
    refine ⟨fun party ↦ ?_, [], rfl⟩
    change act party f = none
    cases hact : act party f with
    | none => rfl
    | some f' =>
      have hlt := lowers_remaining party f f' hact
      have hpos := f'.one_le_remaining
      omega
  | succ turns ih =>
    have hnext {party : Party} {f' : Feeding} (hact : act party f = some f') :
        Schedule.IsOver act (f'.playFor turns) ∧
          ∃ schedule, f'.playFor turns = Schedule.play act f schedule := by
      have hlt := lowers_remaining party f f' hact
      obtain ⟨hover, schedule, hplay⟩ := ih (f := f') (by omega)
      refine ⟨hover, party :: schedule, ?_⟩
      rw [Schedule.play_cons, Schedule.turn, hact]
      exact hplay
    rw [playFor]
    cases hsender : act .sender f with
    | some f' => exact hnext hsender
    | none =>
      cases hscribe : act .scribe f with
      | some f' => exact hnext hscribe
      | none =>
        refine ⟨fun party ↦ ?_, [], rfl⟩
        cases party with
        | sender => exact hsender
        | scribe => exact hscribe

theorem finish_isOver (f : Feeding) :
    Schedule.IsOver act f.finish ∧ ∃ schedule, f.finish = Schedule.play act f schedule :=
  playFor_isOver f.remaining_le

/-! ## The result -/

theorem senders_of_act {party : Party} (hact : act party f = some f') :
    f'.items.senders = f.items.senders := by
  cases party with
  | sender =>
    obtain ⟨item, rest, -, -, ⟨items, hsend, rfl⟩ | ⟨-, rfl⟩⟩ := sender_cases hact
    · obtain ⟨-, -, rfl⟩ := Channel.send_eq_accepted_iff.mp hsend
      rfl
    · rfl
  | scribe =>
    obtain ⟨⟨scribe, items⟩, hstep, rfl⟩ := Option.map_eq_some_iff.mp hact
    exact (channel_of_step hstep).2.2

/-- Nobody but the one who closes the channel changes the number of senders. -/
theorem senders_play (f : Feeding) (schedule : List Party) :
    (Schedule.play act f schedule).items.senders = f.items.senders :=
  Schedule.play_invariant (P := fun f' ↦ f'.items.senders = f.items.senders)
    (fun _ _ _ h hact ↦ (senders_of_act hact).trans h) rfl schedule

theorem ComesTo.send_eq_refused_iff (h : f.ComesTo outcome) (item : Bytes) :
    f.items.send item = .refused ↔ f.scribe.hasEnded = true := by
  constructor
  · intro hrefused
    have hreceiving := h.receiving
    rw [Channel.receiving_of_send_eq_refused hrefused] at hreceiving
    simpa using hreceiving
  · intro hended
    have hreceiving : f.items.receiving = false := by rw [h.receiving, hended]; rfl
    simp [Channel.send, hreceiving]

/-- However little the writer takes with a call, however short the queue is, and in whatever order
items are sent and written: everybody comes to an end, and then the greatest number of items is
written that fit the writer, which got the octets of these and of the next one up to its room. The
scribe ends while the queue is open, and refuses what is sent, if and only if some items do not fit.
Otherwise it ends when the queue is closed after the last send, and the result is the same. -/
theorem every_schedule_writes_what_fits (room flushes : Option Nat) (items : List Bytes) :
    (∀ f turns, Schedule.IsFair turns →
      ∃ n, Schedule.IsOver act (Schedule.playFirst act f turns n)) ∧
    ∃ count, IsGreatest {count | Fits room flushes items count} count ∧
      ∀ (perCall : Option Nat) (capacity : Nat), perCall ≠ some 0 →
        let start := ofItems items capacity ⟨perCall, room, flushes, []⟩
        (Schedule.IsOver act start.finish ∧
          ∃ schedule, start.finish = Schedule.play act start schedule) ∧
        ∀ schedule,
          let f := Schedule.play act start schedule
          (f.scribe.hasEnded = true → count < items.length) ∧
          (Schedule.IsOver act f →
            f.scribe.written = count ∧ f.scribe.writer.taken = received room items count ∧
              (f.scribe.hasEnded = true ↔ count < items.length) ∧
              ∀ item, f.items.send item = .refused ↔ count < items.length) ∧
          (f.unsent = [] ∨ f.refused = true → ∀ rest,
            let f' := Schedule.play act f.close rest
            Schedule.IsOver act f' → f'.scribe.hasEnded = true ∧ f'.scribe.written = count ∧
              f'.scribe.writer.taken = received room items count) := by
  let any : Writer := ⟨none, room, flushes, []⟩
  have hany : any.perCall ≠ some 0 := nofun
  obtain ⟨count, hgreatest, -⟩ := exists_serve_eq hany 0 items
  refine ⟨fun f turns hfair ↦ lowers_remaining.exists_isOver hfair f, count, hgreatest, ?_⟩
  intro perCall capacity hcall start
  refine ⟨start.finish_isOver, fun schedule ↦ ?_⟩
  intro f
  let writer : Writer := ⟨perCall, room, flushes, []⟩
  have hwriter : writer.perCall ≠ some 0 := hcall
  obtain ⟨count', hgreatest', hserve⟩ := exists_serve_eq hwriter 0 items
  obtain rfl := hgreatest.unique hgreatest'
  rw [Nat.zero_add, List.nil_append] at hserve
  have hcomes : f.ComesTo ⟨count, received room items count, decide (count < items.length)⟩ :=
    hserve ▸ (comesTo_ofItems items capacity writer).play schedule
  have hopen : f.items.senders = 1 := start.senders_play schedule
  refine ⟨fun hended ↦ ?_, fun hover ↦ ?_, fun hsent rest ↦ ?_⟩
  · have hfailed := (hcomes.done hended).2.2 (by rw [hopen]; exact nofun)
    exact decide_eq_true_iff.mp hfailed
  · obtain ⟨hwritten, htaken, hended⟩ := hcomes.of_isOver hover
    have hiff : f.scribe.hasEnded = true ↔ count < items.length := by
      rw [hended, hopen]
      simp
    exact ⟨hwritten, htaken, hiff, fun item ↦ (hcomes.send_eq_refused_iff item).trans hiff⟩
  · intro f' hover
    obtain ⟨hwritten, htaken, hended⟩ := ((hcomes.close hsent).play rest).of_isOver hover
    have hclosed : f'.items.senders = 0 := by
      have hdropped : f.close.items.senders = 0 := congrArg (· - 1) hopen
      exact (senders_play f.close rest).trans hdropped
    rw [hclosed] at hended
    exact ⟨hended, hwritten, htaken⟩

def sampleItems : List Bytes :=
  [[0x61, 0x62], [], [0x63, 0x64], [0x65]]

def sampleTurns (n : Nat) : Party :=
  if n % 2 = 0 then .scribe else .sender

theorem isFair_sampleTurns : Schedule.IsFair sampleTurns := by
  intro party n
  cases party with
  | scribe => exact ⟨2 * n, by omega, if_pos (by omega)⟩
  | sender => exact ⟨2 * n + 1, by omega, if_neg (by omega)⟩

/-- Of four items the third is cut short, one octet at a time with the shortest queue as well as in
calls of any length when the two act in turn. -/
theorem every_schedule_writes_what_fits_third_cut_short :
    IsGreatest {count | Fits (some 3) none sampleItems count} 2 ∧
      (ofItems sampleItems 0 ⟨some 1, some 3, none, []⟩).finish.scribe.written = 2 ∧
      (ofItems sampleItems 0 ⟨some 1, some 3, none, []⟩).finish.scribe.writer.taken =
        [0x61, 0x62, 0x63] ∧
      (ofItems sampleItems 0 ⟨some 1, some 3, none, []⟩).finish.scribe.hasEnded = true ∧
      ∃ n, (Schedule.playFirst act (ofItems sampleItems 8 ⟨none, some 3, none, []⟩) sampleTurns
        n).scribe.written = 2 := by
  obtain ⟨hends, count, hgreatest, hresult⟩ :=
    every_schedule_writes_what_fits (some 3) none sampleItems
  obtain ⟨⟨hover, schedule, hfinish⟩, hslow⟩ := hresult (some 1) 0 nofun
  obtain ⟨-, hdone, -⟩ := hslow schedule
  rw [← hfinish] at hdone
  obtain ⟨hwritten, htaken, hended, -⟩ := hdone hover
  obtain rfl : count = 2 := by
    rw [← hwritten]
    decide
  have hreceived : received (some 3) sampleItems 2 = [0x61, 0x62, 0x63] := by decide
  obtain ⟨n, hfast⟩ := hends _ sampleTurns isFair_sampleTurns
  obtain ⟨-, hsame, -⟩ := (hresult none 8 nofun).2 ((List.range n).map sampleTurns)
  exact ⟨hgreatest, hwritten, htaken.trans hreceived, hended.mpr (by decide), n, (hsame hfast).1⟩

end ShellDebugger.Feeding
