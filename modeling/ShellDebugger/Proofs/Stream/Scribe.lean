import ShellDebugger.Proofs.Stream.Writer
import ShellDebugger.Stream.Scribe

/-!
# Books of a scribe

Where the octets are of the items that a channel took: the items that are done are written in
full, of the one at hand a part is written, and the others wait. Every action of the scribe, every
send and every change of the writer keeps these books, so that what is written is at any time a
prefix of what was sent, and all of it when the scribe has ended without a failure.
-/

namespace ShellDebugger

/-! ## Channels -/

namespace Channel

variable {α : Type} {c c' : Channel α} {item : α}

theorem send_eq_accepted_iff :
    c.send item = .accepted c' ↔ c.receiving = true ∧ c.items.length < c.capacity ∧
      c' = { c with items := c.items ++ [item] } := by
  unfold send
  cases hreceiving : c.receiving with
  | false => simp
  | true =>
    by_cases hroom : c.items.length < c.capacity
    · simp [hroom, eq_comm]
    · simp [hroom]

end Channel

/-! ## Actions of a scribe -/

namespace Scribe

/-- What an action of a scribe comes to. -/
inductive Moves (s : Scribe) (waiting : Channel Bytes) : Scribe → Channel Bytes → Prop
  /-- The first item is taken. -/
  | takes {item : Bytes} {rest : List Bytes} :
      s.phase = .receiving → waiting.items = item :: rest →
      Moves s waiting { s with phase := .writing item } { waiting with items := rest }
  /-- The channel is found closed. -/
  | finishes : s.phase = .receiving → waiting.items = [] → waiting.senders = 0 →
      Moves s waiting { s with phase := .ended } waiting.dropReceiver
  /-- A call takes some octets. -/
  | writes {rest : Bytes} {n : Nat} {writer : Writer} :
      s.phase = .writing rest → rest ≠ [] → s.writer.write rest = (n, writer) → n ≠ 0 →
      Moves s waiting { s with phase := .writing (rest.drop n), writer := writer } waiting
  /-- A call takes nothing. -/
  | blocks {rest : Bytes} {writer : Writer} :
      s.phase = .writing rest → rest ≠ [] → s.writer.write rest = (0, writer) →
      Moves s waiting { s with phase := .ended, writer := writer } waiting.dropReceiver
  /-- The item is found written. -/
  | completes : s.phase = .writing [] → Moves s waiting { s with phase := .flushing } waiting
  /-- The item is flushed. -/
  | flushes {writer : Writer} :
      s.phase = .flushing → s.writer.flush = (.ok (), writer) →
      Moves s waiting ⟨.receiving, writer, s.written + 1⟩ waiting
  /-- The flush is refused. -/
  | fails {cause : IoError} {writer : Writer} :
      s.phase = .flushing → s.writer.flush = (.error cause, writer) →
      Moves s waiting { s with phase := .ended, writer := writer } waiting.dropReceiver

theorem moves_of_step {s s' : Scribe} {waiting waiting' : Channel Bytes}
    (h : s.step waiting = some (s', waiting')) : s.Moves waiting s' waiting' := by
  unfold step at h
  split at h
  · next hphase =>
    cases hitems : waiting.items with
    | nil =>
      by_cases hsenders : waiting.senders = 0
      · simp only [Channel.receive, hitems, hsenders, if_true] at h
        cases h
        exact .finishes hphase hitems hsenders
      · simp [Channel.receive, hitems, hsenders] at h
    | cons item rest =>
      simp only [Channel.receive, hitems] at h
      cases h
      exact .takes hphase hitems
  · next rest hphase =>
    split at h
    · next hempty =>
      cases h
      rw [List.isEmpty_iff.mp hempty] at hphase
      exact .completes hphase
    · next hrest =>
      have hrest : rest ≠ [] := fun hnil ↦ hrest (List.isEmpty_iff.mpr hnil)
      split at h
      · next hwrite =>
        cases h
        exact .blocks hphase hrest hwrite
      · next hn hwrite =>
        cases h
        exact .writes hphase hrest hwrite hn
  · next hphase =>
    split at h
    · next hflush =>
      cases h
      exact .flushes hphase hflush
    · next hflush =>
      cases h
      exact .fails hphase hflush
  · cases h

/-! ## Books -/

/-- Whether the next action of the scribe fails: a call that takes nothing of what is left, or a
flush that is refused. -/
def isFailing (s : Scribe) : Bool :=
  match s.phase with
  | .writing rest => !rest.isEmpty && (s.writer.write rest).1 == 0
  | .flushing => !(s.writer.flush).1.isOk
  | _ => false

/-- Where the accepted items are when `done` are written, and `part` of the next one: what a phase
leaves of it, and what waits in the channel. A scribe that failed has left behind the rest of one
item and all that came after it. -/
def Accounts (phase : Phase) (items : Channel Bytes) (accepted done : List Bytes) (part : Bytes)
    (failed : Bool) : Prop :=
  match phase with
  | .receiving =>
    items.receiving = true ∧ failed = false ∧ part = [] ∧ accepted = done ++ items.items
  | .writing rest =>
    items.receiving = true ∧ failed = false ∧ accepted = done ++ (part ++ rest) :: items.items
  | .flushing => items.receiving = true ∧ failed = false ∧ accepted = done ++ part :: items.items
  | .ended =>
    items.receiving = false ∧
      (failed = false ∧ part = [] ∧ accepted = done ∨
        failed = true ∧ ∃ rest lost, accepted = done ++ (part ++ rest) :: lost)

/-- The scribe's books: the octets written are those of the items done and of a part of the next. -/
def Books (s : Scribe) (items : Channel Bytes) (accepted : List Bytes) (failed : Bool) : Prop :=
  ∃ done part, s.writer.taken = done.flatten ++ part ∧ s.written = done.length ∧
    Accounts s.phase items accepted done part failed

variable {s s' : Scribe} {items items' : Channel Bytes} {accepted : List Bytes} {failed : Bool}

theorem books_ofWriter {writer : Writer} (hnothing : writer.taken = []) (capacity : Nat) :
    (ofWriter writer).Books (.ofCapacity capacity) [] false :=
  ⟨[], [], hnothing, rfl, rfl, rfl, rfl, rfl⟩

/-- The accepted octets are those of the items done, the part written, and the rest. -/
theorem Accounts.exists_rest {phase : Phase} {done : List Bytes} {part : Bytes}
    (h : Accounts phase items accepted done part failed) :
    ∃ rest, accepted.flatten = done.flatten ++ part ++ rest := by
  cases phase with
  | receiving =>
    obtain ⟨-, -, rfl, rfl⟩ := h
    exact ⟨items.items.flatten, by rw [List.flatten_append, List.append_nil]⟩
  | writing rest =>
    obtain ⟨-, -, rfl⟩ := h
    exact ⟨rest ++ items.items.flatten, by simp⟩
  | flushing =>
    obtain ⟨-, -, rfl⟩ := h
    exact ⟨items.items.flatten, by simp⟩
  | ended =>
    obtain ⟨-, ⟨-, rfl, rfl⟩ | ⟨-, rest, lost, rfl⟩⟩ := h
    · exact ⟨[], by simp⟩
    · exact ⟨rest ++ lost.flatten, by simp⟩

/-- What is written is a prefix of what was accepted. -/
theorem Books.taken_prefix_flatten (h : s.Books items accepted failed) :
    s.writer.taken <+: accepted.flatten := by
  obtain ⟨done, part, htaken, -, haccounts⟩ := h
  obtain ⟨rest, hrest⟩ := haccounts.exists_rest
  rw [htaken, hrest]
  exact List.prefix_append _ rest

/-- A scribe that has ended without a failure has written everything that was accepted. -/
theorem Books.complete (h : s.Books items accepted false) (hended : s.phase = .ended) :
    s.writer.taken = accepted.flatten ∧ s.written = accepted.length := by
  obtain ⟨done, part, htaken, hwritten, haccounts⟩ := h
  rw [hended] at haccounts
  obtain ⟨-, ⟨-, rfl, rfl⟩ | ⟨hfailed, -⟩⟩ := haccounts
  · exact ⟨htaken.trans (List.append_nil _), hwritten⟩
  · cases hfailed

/-- An item that is sent waits behind the others. -/
theorem Books.send {item : Bytes} (h : s.Books items accepted failed)
    (hsend : items.send item = .accepted items') : s.Books items' (accepted ++ [item]) failed := by
  obtain ⟨hreceiving, -, rfl⟩ := Channel.send_eq_accepted_iff.mp hsend
  obtain ⟨done, part, htaken, hwritten, haccounts⟩ := h
  refine ⟨done, part, htaken, hwritten, ?_⟩
  obtain ⟨phase, writer, written⟩ := s
  cases phase with
  | receiving =>
    obtain ⟨-, hfailed, hpart, rfl⟩ := haccounts
    exact ⟨hreceiving, hfailed, hpart, List.append_assoc ..⟩
  | writing rest =>
    obtain ⟨-, hfailed, rfl⟩ := haccounts
    exact ⟨hreceiving, hfailed, List.append_assoc ..⟩
  | flushing =>
    obtain ⟨-, hfailed, rfl⟩ := haccounts
    exact ⟨hreceiving, hfailed, List.append_assoc ..⟩
  | ended =>
    rw [haccounts.1] at hreceiving
    cases hreceiving

/-- Who holds a sender does not matter to the books. -/
theorem Books.of_senders (h : s.Books items accepted failed) (senders : Nat) :
    s.Books { items with senders := senders } accepted failed := by
  obtain ⟨done, part, htaken, hwritten, haccounts⟩ := h
  refine ⟨done, part, htaken, hwritten, ?_⟩
  obtain ⟨phase, writer, written⟩ := s
  cases phase <;> exact haccounts

/-- What the writer will take does not matter to the books. -/
theorem Books.of_taken (h : s.Books items accepted failed) {writer : Writer}
    (htaken : writer.taken = s.writer.taken) :
    Books { s with writer := writer } items accepted failed := by
  obtain ⟨done, part, htaken', hwritten, haccounts⟩ := h
  exact ⟨done, part, htaken.trans htaken', hwritten, haccounts⟩

/-- A call fails when it takes nothing. -/
theorem isFailing_of_write {rest : Bytes} {n : Nat} {writer : Writer}
    (hphase : s.phase = .writing rest) (hrest : rest ≠ [])
    (hwrite : s.writer.write rest = (n, writer)) : s.isFailing = (n == 0) := by
  simp [isFailing, hphase, hrest, hwrite]

/-- A flush fails when it is refused. -/
theorem isFailing_of_flush {result : Except IoError Unit} {writer : Writer}
    (hphase : s.phase = .flushing) (hflush : s.writer.flush = (result, writer)) :
    s.isFailing = !result.isOk := by
  rw [isFailing, hphase]
  simp only [hflush]

/-- A scribe that cannot act does not fail. -/
theorem not_isFailing_of_step_eq_none (hstep : s.step items = none) : s.isFailing = false := by
  obtain ⟨phase, writer, written⟩ := s
  cases phase with
  | receiving | ended => rfl
  | writing rest =>
    simp only [Scribe.step] at hstep
    split at hstep
    · cases hstep
    · split at hstep <;> cases hstep
  | flushing =>
    simp only [Scribe.step] at hstep
    split at hstep <;> cases hstep

/-- Every action of the scribe keeps the books, and where it fails it leaves the rest behind. -/
theorem Books.step (h : s.Books items accepted failed)
    (hstep : s.step items = some (s', items')) :
    s'.Books items' accepted (failed || s.isFailing) := by
  obtain ⟨done, part, htaken, hwritten, haccounts⟩ := h
  obtain ⟨phase, writer, written⟩ := s
  cases moves_of_step hstep with
  | takes hphase hitems =>
    obtain rfl : phase = .receiving := hphase
    obtain ⟨hreceiving, rfl, rfl, haccepted⟩ := haccounts
    rw [hitems] at haccepted
    exact ⟨done, [], htaken, hwritten, hreceiving, rfl, haccepted⟩
  | finishes hphase hitems _ =>
    obtain rfl : phase = .receiving := hphase
    obtain ⟨-, rfl, rfl, haccepted⟩ := haccounts
    rw [hitems, List.append_nil] at haccepted
    exact ⟨done, [], htaken, hwritten, rfl, .inl ⟨rfl, rfl, haccepted⟩⟩
  | @writes rest n writer' hphase hrest hwrite hn =>
    -- The part grows by what the call takes.
    rw [isFailing_of_write hphase hrest hwrite, beq_eq_false_iff_ne.mpr hn]
    obtain rfl : phase = .writing rest := hphase
    obtain ⟨hreceiving, rfl, haccepted⟩ := haccounts
    refine ⟨done, part ++ rest.take n, ?_, hwritten, hreceiving, rfl, ?_⟩
    · rw [Writer.taken_of_write hwrite, htaken, List.append_assoc]
    · rw [List.append_assoc, List.take_append_drop, haccepted]
  | @blocks rest writer' hphase hrest hwrite =>
    -- Nothing taken is the failure.
    rw [isFailing_of_write hphase hrest hwrite]
    obtain rfl : phase = .writing rest := hphase
    obtain ⟨-, rfl, haccepted⟩ := haccounts
    refine ⟨done, part, ?_, hwritten, rfl, .inr ⟨rfl, rest, items.items, haccepted⟩⟩
    rw [Writer.taken_of_write hwrite, List.take_zero, List.append_nil, htaken]
  | completes hphase =>
    obtain rfl : phase = .writing [] := hphase
    obtain ⟨hreceiving, rfl, haccepted⟩ := haccounts
    rw [List.append_nil] at haccepted
    exact ⟨done, part, htaken, hwritten, hreceiving, rfl, haccepted⟩
  | flushes hphase hflush =>
    rw [isFailing_of_flush hphase hflush]
    obtain rfl : phase = .flushing := hphase
    obtain ⟨hreceiving, rfl, haccepted⟩ := haccounts
    refine ⟨done ++ [part], [], ?_, ?_, hreceiving, rfl, rfl, ?_⟩
    · rw [Writer.taken_of_flush hflush, htaken, List.flatten_concat, List.append_nil]
    · rw [List.length_append, List.length_singleton, ← hwritten]
    · rw [haccepted, List.append_assoc, List.singleton_append]
  | fails hphase hflush =>
    rw [isFailing_of_flush hphase hflush]
    obtain rfl : phase = .flushing := hphase
    obtain ⟨-, rfl, haccepted⟩ := haccounts
    refine ⟨done, part, ?_, hwritten, rfl, .inr ⟨rfl, [], items.items, ?_⟩⟩
    · rw [Writer.taken_of_flush hflush, htaken]
    · rw [haccepted, List.append_nil]

end Scribe
end ShellDebugger
