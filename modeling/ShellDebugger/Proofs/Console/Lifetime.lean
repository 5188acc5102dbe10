import ShellDebugger.Console.Lifetime
import ShellDebugger.Proofs.Host.PlainSystem
import ShellDebugger.Proofs.Stream.Outlet

/-!
# What is printed when the process ends

Under every schedule the outlets of both streams keep their books, and the program waits for a
printer only after it has dropped its senders, so that both printers come to their end. When the
first shell has started, the process therefore ends only after all that the relays have sent is
printed. When it has not, the process ends while the printers may still be at work, and what a shell
complained of before it died can be lost.
-/

namespace ShellDebugger

open Plan
open Console (Departure)

namespace Lifetime

/-! ## What an action comes to -/

/-- What an action of a party comes to. -/
inductive Moves (l : Lifetime) : Party → Lifetime → Prop
  /-- The program finds that it has no calls left. -/
  | finishes {answer : (c : Call) → c.Answer} {source : List ReadEvent} {departure : Departure} :
      l.program = .calling (.done departure) →
      Moves l (.program answer source) { l with program := .leaving departure departure.steps }
  /-- The program makes a call. -/
  | calls {answer : (c : Call) → c.Answer} {source : List ReadEvent} {c : Call}
      {next : c.Answer → Plan Departure} {outlets : PerStream Outlet} :
      l.program = .calling (.ask c next) → meet l.outlets source c (answer c) = some outlets →
      Moves l (.program answer source) ⟨.calling (next (answer c)), outlets⟩
  /-- The program does one more thing on the way out. -/
  | leaves {answer : (c : Call) → c.Answer} {source : List ReadEvent} {departure : Departure}
      {step : Departure.Step} {left : List Departure.Step} {outlets : PerStream Outlet} :
      l.program = .leaving departure (step :: left) → leave l.outlets step = some outlets →
      Moves l (.program answer source) ⟨.leaving departure left, outlets⟩
  /-- A relay, a printer, the runtime or the terminal acts. -/
  | flows {stream : Stream} {party : Outlet.Party} {o : Outlet} :
      l.departed = none → (l.outlets.get stream).act party = some o →
      Moves l (.outlet stream party) { l with outlets := l.outlets.update (fun _ ↦ o) stream }

variable {l l' : Lifetime} {party : Party}

theorem moves_of_act (h : act party l = some l') : l.Moves party l' := by
  unfold act at h
  split at h
  · cases h
  · next hdeparted =>
    cases party with
    | program answer source =>
      change l.advance answer source = some l' at h
      unfold advance at h
      split at h
      · next hprogram =>
        cases h
        exact .finishes hprogram
      · next hprogram =>
        obtain ⟨outlets, hmeet, rfl⟩ := Option.map_eq_some_iff.mp h
        exact .calls hprogram hmeet
      · next hprogram =>
        obtain ⟨outlets, hleave, rfl⟩ := Option.map_eq_some_iff.mp h
        exact .leaves hprogram hleave
      · cases h
    | outlet stream party =>
      obtain ⟨o, hact, rfl⟩ := Option.map_eq_some_iff.mp h
      exact .flows (Option.not_isSome_iff_eq_none.mp hdeparted) hact

/-! ## The calls are those of the plan -/

/-- The call that the program makes in a party's turn, if it makes one. -/
def callAt (l : Lifetime) : Party → List Event
  | .program answer source =>
    match l.program with
    | .calling (.ask c _) =>
      if (meet l.outlets source c (answer c)).isSome then [⟨c, answer c⟩] else []
    | _ => []
  | .outlet .. => []

/-- The calls that the program makes under a schedule. -/
def callsOf (l : Lifetime) : List Party → List Event
  | [] => []
  | party :: rest => l.callAt party ++ (Schedule.turn act l party).callsOf rest

/-- A program makes some more calls and then departs in some way. -/
def Program.Runs : Program → List Event → Departure → Prop
  | .calling plan, calls, departure => Plan.Runs plan calls departure
  | .leaving departing _, calls, departure => calls = [] ∧ departure = departing

theorem runs_nil_of_departed {departure : Departure} (h : l.departed = some departure) :
    l.program.Runs [] departure := by
  unfold departed at h
  split at h
  · next hprogram =>
    cases h
    rw [hprogram]
    exact ⟨rfl, rfl⟩
  · cases h

/-- A program that has to wait makes no call. -/
theorem callAt_eq_nil (h : act party l = none) : l.callAt party = [] := by
  cases party with
  | outlet stream party => rfl
  | program answer source =>
    obtain ⟨program, outlets⟩ := l
    match program with
    | .leaving .. | .calling (.done _) => rfl
    | .calling (.ask c next) =>
      have hmeet : meet outlets source c (answer c) = none := by
        simpa [act, departed, advance] using h
      simp [callAt, hmeet]

theorem Moves.runs (hmoves : l.Moves party l') {calls : List Event} {departure : Departure}
    (h : l'.program.Runs calls departure) : l.program.Runs (l.callAt party ++ calls) departure := by
  cases hmoves with
  | finishes hprogram =>
    obtain ⟨rfl, rfl⟩ := h
    rw [callAt, hprogram]
    exact .done _
  | calls hprogram hmeet =>
    rw [callAt, hprogram]
    simp only [hmeet, Option.isSome_some, if_true]
    exact .ask _ h
  | leaves hprogram hleave =>
    rw [callAt, hprogram]
    exact h
  | flows hdeparted hact => exact h

/-- Until the process ends, the program makes the calls of one run of its plan. -/
theorem runs_callsOf {schedule : List Party} {departure : Departure}
    (h : (Schedule.play act l schedule).departed = some departure) :
    l.program.Runs (l.callsOf schedule) departure := by
  induction schedule generalizing l with
  | nil => exact runs_nil_of_departed h
  | cons party rest ih =>
    have hrest := ih h
    rw [callsOf]
    unfold Schedule.turn at hrest ⊢
    cases hact : act party l with
    | none =>
      rw [callAt_eq_nil hact]
      rwa [hact] at hrest
    | some l' =>
      rw [hact] at hrest
      exact (moves_of_act hact).runs hrest

/-! ## The way out -/

/-- Whether the printer of a stream fails in a party's turn. -/
def failsAt (l : Lifetime) (stream : Stream) : Party → Bool
  | .program .. => false
  | .outlet other party =>
    l.departed.isNone && other == stream && (l.outlets.get stream).failsAt party

/-- Whether the printer of a stream fails to write or to flush under a schedule. -/
def fails (l : Lifetime) (stream : Stream) : List Party → Bool
  | [] => false
  | party :: rest => l.failsAt stream party || (Schedule.turn act l party).fails stream rest

/-- The program's own senders on each way: one, until it has dropped it. -/
def Program.senders : Program → Nat
  | .calling _ => 1
  | .leaving departure left => if left = departure.steps then 1 else 0

/-- On its way out the program has waited for the printers for which it does not wait any more. -/
def Program.Joined (outlets : PerStream Outlet) : Program → Prop
  | .calling _ => True
  | .leaving departure left =>
    left <:+ departure.steps ∧ ∀ stream, .joinPrinter stream ∈ departure.steps →
      .joinPrinter stream ∈ left ∨ (outlets.get stream).printer.phase = .ended

/-- What holds under every schedule: the books of both outlets, and that printers were waited
for. -/
structure Keeps (l : Lifetime) (limit : Nat) (failed : Stream → Bool) : Prop where
  booked : ∀ stream, (l.outlets.get stream).Keeps limit l.program.senders (failed stream)
  joined : l.program.Joined l.outlets

variable {limit : Nat} {failed : Stream → Bool}

theorem keeps_ofPlan (plan : Plan Departure) (capacity : Nat) :
    (ofPlan plan capacity).Keeps (max capacity 1) fun _ ↦ false where
  booked stream := by cases stream <;> exact Outlet.keeps_ofCapacity capacity
  joined := trivial

/-- The senders are dropped first of all, and only after that printers are waited for. -/
theorem head_of_suffix_steps {departure : Departure} {step : Departure.Step}
    {left : List Departure.Step} (h : step :: left <:+ departure.steps) :
    step = .dropSinks ∧ step :: left = departure.steps ∨
      ∃ stream, step = .joinPrinter stream ∧ step :: left ≠ departure.steps := by
  cases departure with
  | unstarted => exact absurd (List.suffix_nil.mp h) (List.cons_ne_nil step left)
  | unreported cause =>
    rcases List.suffix_cons_iff.mp h with heq | hrest
    · cases heq
      exact .inl ⟨rfl, rfl⟩
    · exact absurd (List.suffix_nil.mp hrest) (List.cons_ne_nil step left)
  | loopEnded result =>
    rcases List.suffix_cons_iff.mp h with heq | hrest
    · cases heq
      exact .inl ⟨rfl, rfl⟩
    rcases List.suffix_cons_iff.mp hrest with heq | hrest
    · cases heq
      exact .inr ⟨_, rfl, nofun⟩
    rcases List.suffix_cons_iff.mp hrest with heq | hrest
    · cases heq
      exact .inr ⟨_, rfl, nofun⟩
    · exact absurd (List.suffix_nil.mp hrest) (List.cons_ne_nil step left)

theorem senders_of_suffix {departure : Departure} {step : Departure.Step}
    {left : List Departure.Step} (h : step :: left <:+ departure.steps) :
    (Program.leaving departure left).senders = 0 := by
  have hshorter : left ≠ departure.steps := by
    rintro rfl
    exact absurd h.length_le (by simp)
  exact if_neg hshorter

/-- What a call does to the outlets keeps their books. -/
theorem keeps_meet {outlets outlets' : PerStream Outlet} {source : List ReadEvent} {own : Nat}
    (h : ∀ stream, (outlets.get stream).Keeps limit own (failed stream)) {c : Call}
    {answer : c.Answer} (hmeet : meet outlets source c answer = some outlets') (stream : Stream) :
    (outlets'.get stream).Keeps limit own (failed stream) := by
  unfold meet at hmeet
  split at hmeet
  · next child other _ =>
    cases hmeet
    rw [PerStream.get_update]
    split
    · exact (h stream).attach child source
    · exact h stream
  · split at hmeet <;> cases hmeet
    exact h stream
  · next child other =>
    cases hmeet
    rw [PerStream.get_update]
    split
    · exact (h stream).abandon child
    · exact h stream
  · cases hmeet
    exact h stream

theorem Keeps.leaves (h : l.Keeps limit failed) {departure : Departure} {step : Departure.Step}
    {left : List Departure.Step} {outlets : PerStream Outlet}
    (hprogram : l.program = .leaving departure (step :: left))
    (hleave : leave l.outlets step = some outlets) :
    Keeps ⟨.leaving departure left, outlets⟩ limit failed := by
  obtain ⟨hbooked, hjoined⟩ := h
  rw [hprogram] at hbooked hjoined
  obtain ⟨hsuffix, hprinters⟩ := hjoined
  have hrest : left <:+ departure.steps := (List.suffix_cons step left).trans hsuffix
  rcases head_of_suffix_steps hsuffix with ⟨rfl, hfirst⟩ | ⟨joined, rfl, hlater⟩
  · -- The senders are dropped, and no printer was waited for.
    cases hleave
    refine ⟨fun stream ↦ ?_, hrest, fun stream hstep ↦ ?_⟩
    · rw [senders_of_suffix hsuffix]
      have hone : (Program.leaving departure (.dropSinks :: left)).senders = 0 + 1 := if_pos hfirst
      have hkept := hbooked stream
      rw [hone] at hkept
      cases stream <;> exact hkept.dropSink
    · rcases hprinters stream hstep with hleft | hended
      · exact .inl ((List.mem_cons.mp hleft).resolve_left nofun)
      · right
        cases stream <;> exact hended
  · -- One printer has ended.
    simp only [leave] at hleave
    split at hleave
    · next hhasEnded =>
      cases hleave
      refine ⟨fun stream ↦ ?_, hrest, fun stream hstep ↦ ?_⟩
      · rw [senders_of_suffix hsuffix]
        have hnone : (Program.leaving departure (.joinPrinter joined :: left)).senders = 0 :=
          if_neg hlater
        have hkept := hbooked stream
        rwa [hnone] at hkept
      · rcases hprinters stream hstep with hleft | hended
        · rcases List.mem_cons.mp hleft with heq | hleft
          · cases heq
            exact .inr (beq_iff_eq.mp hhasEnded)
          · exact .inl hleft
        · exact .inr hended
    · cases hleave

theorem Keeps.flows (h : l.Keeps limit failed) {stream : Stream} {party : Outlet.Party}
    {o : Outlet} (hdeparted : l.departed = none)
    (hact : (l.outlets.get stream).act party = some o) :
    Keeps { l with outlets := l.outlets.update (fun _ ↦ o) stream } limit fun other ↦
      failed other || l.failsAt other (.outlet stream party) where
  booked other := by
    rw [PerStream.get_update]
    split
    · next heq =>
      subst heq
      simpa [failsAt, hdeparted] using (h.booked stream).act hact
    · next hne => simpa [failsAt, beq_false_of_ne hne] using h.booked other
  joined := by
    have hjoined := h.joined
    obtain ⟨program, outlets⟩ := l
    cases program with
    | calling plan => trivial
    | leaving departure left =>
      refine ⟨hjoined.1, fun other hstep ↦ (hjoined.2 other hstep).imp_right fun hended ↦ ?_⟩
      rw [PerStream.get_update]
      split
      · next heq =>
        subst heq
        exact Outlet.phase_eq_ended_of_act hact hended
      · exact hended

theorem Keeps.moves (h : l.Keeps limit failed) (hmoves : l.Moves party l') :
    l'.Keeps limit fun stream ↦ failed stream || l.failsAt stream party := by
  cases hmoves with
  | @finishes _ _ departure hprogram =>
    simp only [failsAt, Bool.or_false]
    refine ⟨fun stream ↦ ?_, List.suffix_refl _, fun stream hstep ↦ .inl hstep⟩
    have hone : (Program.leaving departure departure.steps).senders = 1 := if_pos rfl
    have hkept := h.booked stream
    rw [hprogram] at hkept
    rwa [hone]
  | calls hprogram hmeet =>
    simp only [failsAt, Bool.or_false]
    refine ⟨fun stream ↦ keeps_meet (fun other ↦ ?_) hmeet stream, trivial⟩
    have hkept := h.booked other
    rwa [hprogram] at hkept
  | leaves hprogram hleave =>
    simp only [failsAt, Bool.or_false]
    exact h.leaves hprogram hleave
  | flows hdeparted hact => exact h.flows hdeparted hact

/-- A party that has to wait does not fail. -/
theorem failsAt_eq_false (hact : act party l = none) (stream : Stream) :
    l.failsAt stream party = false := by
  cases party with
  | program answer source => rfl
  | outlet other party =>
    cases hdeparted : l.departed with
    | some departure => simp [failsAt, hdeparted]
    | none =>
      by_cases heq : other = stream
      · subst heq
        have hwaits : (l.outlets.get other).act party = none := by
          simpa [act, hdeparted] using hact
        simp [failsAt, Outlet.failsAt_eq_false hwaits]
      · simp [failsAt, heq]

theorem Keeps.turn (h : l.Keeps limit failed) (party : Party) :
    (Schedule.turn act l party).Keeps limit fun stream ↦
      failed stream || l.failsAt stream party := by
  unfold Schedule.turn
  cases hact : act party l with
  | none => simpa [failsAt_eq_false hact] using h
  | some l' => exact h.moves (moves_of_act hact)

theorem Keeps.play (h : l.Keeps limit failed) (schedule : List Party) :
    (Schedule.play act l schedule).Keeps limit fun stream ↦
      failed stream || l.fails stream schedule := by
  induction schedule generalizing l failed with
  | nil => simpa [fails] using h
  | cons party rest ih =>
    have hrest := ih (h.turn party)
    simp only [Bool.or_assoc] at hrest
    exact hrest

/-! ## The end -/

/-- A program that departs after the loop has waited for both printers. -/
theorem Keeps.ended (h : l.Keeps limit failed) {result : Except Console.Failure Unit}
    (hdeparted : l.departed = some (.loopEnded result)) (stream : Stream) :
    (l.outlets.get stream).printer.phase = .ended := by
  unfold departed at hdeparted
  split at hdeparted
  · next departure hprogram =>
    cases hdeparted
    have hjoined := h.joined
    rw [hprogram] at hjoined
    have hstep : Departure.Step.joinPrinter stream ∈ (Departure.loopEnded result).steps := by
      cases stream <;> simp [Departure.steps]
    exact (hjoined.2 stream hstep).resolve_left List.not_mem_nil
  · cases hdeparted

/-- The answers of a plain system to a program that has no patience with relays. -/
def impatient : (c : Call) → c.Answer
  | .joinRelay .. => (false : Bool)
  | c => (PlainSystem.ofShell true).answer c

theorem exists_meet (outlets : PerStream Outlet) (source : List ReadEvent) (c : Call) :
    ∃ outlets', meet outlets source c (impatient c) = some outlets' := by
  cases c <;> exact ⟨_, rfl⟩

/-- Until the process has ended nobody is stuck: the program can go on once its call is answered,
and if it waits for a printer, this printer or one of the relays before it can go on. -/
theorem Keeps.exists_act (h : l.Keeps limit failed) (hlimit : 0 < limit)
    (hdeparted : l.departed = none) :
    (∃ answer source l', act (.program answer source) l = some l') ∨
      ∃ stream l', act (.outlet stream .printer) l = some l' ∨
        ∃ index, act (.outlet stream (.relay index)) l = some l' := by
  have hflows {stream : Stream} {party : Outlet.Party} {o : Outlet}
      (hact : (l.outlets.get stream).act party = some o) :
      act (.outlet stream party) l =
        some { l with outlets := l.outlets.update (fun _ ↦ o) stream } := by
    simp [act, hdeparted, hact]
  obtain ⟨hbooked, hjoined⟩ := h
  obtain ⟨program, outlets⟩ := l
  match program with
  | .calling (.done departure) => exact .inl ⟨impatient, [], _, rfl⟩
  | .calling (.ask c next) =>
    obtain ⟨outlets', hmeet⟩ := exists_meet outlets [] c
    exact .inl ⟨impatient, [], ⟨.calling (next (impatient c)), outlets'⟩, by
      simp [act, departed, advance, hmeet]⟩
  | .leaving departure [] => cases hdeparted
  | .leaving departure (.dropSinks :: left) => exact .inl ⟨impatient, [], _, rfl⟩
  | .leaving departure (.joinPrinter stream :: left) =>
    have hnone : (Program.leaving departure (.joinPrinter stream :: left)).senders = 0 := by
      rcases head_of_suffix_steps hjoined.1 with ⟨heq, -⟩ | ⟨_, -, hlater⟩
      · cases heq
      · exact if_neg hlater
    have hkept := hbooked stream
    rw [hnone] at hkept
    by_cases hended : (outlets.get stream).printer.phase = .ended
    · exact .inl ⟨impatient, [], ⟨.leaving departure left, outlets⟩, by
        simp [act, departed, advance, leave, Scribe.hasEnded, hended]⟩
    · rcases hkept.exists_act hlimit hended with ⟨o, hact⟩ | ⟨index, o, hact⟩
      · exact .inr ⟨stream, _, .inl (hflows hact)⟩
      · exact .inr ⟨stream, _, .inr ⟨index, hflows hact⟩⟩

/-- Nobody is ever stuck before the process has ended. -/
theorem exists_act (plan : Plan Departure) (capacity : Nat) (schedule : List Party) :
    let l := Schedule.play act (ofPlan plan capacity) schedule
    l.departed = none →
      (∃ answer source l', act (.program answer source) l = some l') ∨
        ∃ stream l', act (.outlet stream .printer) l = some l' ∨
          ∃ index, act (.outlet stream (.relay index)) l = some l' :=
  ((keeps_ofPlan plan capacity).play schedule).exists_act
    (Nat.lt_of_lt_of_le Nat.zero_lt_one (Nat.le_max_right ..))

end Lifetime

namespace Console

/-- The process exits with 0 exactly if the loop has ended without a failure. -/
theorem Departure.code_eq_zero_iff {departure : Departure} :
    departure.code = 0 ↔ departure = .loopEnded (.ok ()) := by
  rcases departure with result | _ | cause
  · cases result <;> simp [code]
  · simp [code]
  · simp [code]

variable {logged : CommandError → String} {d : Debugger} {source : Option Path}
variable {output : Debugger.Output} {readings : List Reading} {trace : List Event}
variable {departure : Departure}

/-- A run of the program begins with the start of the first shell, and the way it departs says
whether that has succeeded. -/
theorem runs_serve (hrun : Runs (serve logged d source output readings) trace departure) :
    ∃ started d' before after, Runs (d.start source) before (started, d') ∧
      trace = before ++ after ∧
      (started = .ok () ↔ ∃ result, departure = .loopEnded result) := by
  obtain ⟨before, ⟨started, d'⟩, after, hstart, hrest, rfl⟩ := runs_bind_iff.mp hrun
  refine ⟨started, d', before, after, hstart, rfl, ?_⟩
  match started with
  | .ok _ =>
    obtain ⟨_, ⟨result, d''⟩, _, -, hrest, -⟩ := runs_bind_iff.mp hrest
    obtain ⟨_, _, _, -, hrest, -⟩ := runs_bind_iff.mp hrest
    obtain ⟨-, rfl⟩ := runs_pure_iff.mp hrest
    exact ⟨fun _ ↦ ⟨result, rfl⟩, fun _ ↦ rfl⟩
  | .error e =>
    refine ⟨nofun, fun ⟨result, hended⟩ ↦ ?_⟩
    subst hended
    obtain ⟨_, reported, _, -, hrest, -⟩ := runs_bind_iff.mp hrest
    match reported with
    | .ok _ =>
      obtain ⟨_, _, _, -, hrest, -⟩ := runs_bind_iff.mp hrest
      cases (runs_pure_iff.mp hrest).2
    | .error cause => cases (runs_pure_iff.mp hrest).2

end Console

namespace Lifetime

/-- Whatever is read, whatever the system answers and whatever the terminals take, and in whatever
order the program, the relays and the printers act: what is printed is at any time a prefix of what
the relays have sent, and the chunks that count as printed are printed in full. As long as a printer
has not failed it is behind by no more than the chunk at hand and those for which the channel has
room. When the process has ended, its calls began with the start of the first shell, and if that
succeeded, all that was sent is printed, unless the printer has failed. -/
theorem printed_at_end (logged : CommandError → String) (d : Debugger) (source : Option Path)
    (output : Debugger.Output) (readings : List Console.Reading) (capacity : Nat)
    (schedule : List Party) (stream : Stream) :
    let start := ofPlan (Console.serve logged d source output readings) capacity
    let l := Schedule.play act start schedule
    let o := l.outlets.get stream
    o.printed <+: o.sent.flatten ∧
      (o.sent.take o.printer.written).flatten <+: o.printed ∧
      (start.fails stream schedule = false →
        o.sent.length ≤ o.printer.written + max capacity 1 + 1 ∧
        ∀ departure, l.departed = some departure →
          ∃ started d' before after, Runs (d.start source) before (started, d') ∧
            start.callsOf schedule = before ++ after ∧
            (started = .ok () ↔ ∃ result, departure = .loopEnded result) ∧
            (started = .ok () →
              o.printed = o.sent.flatten ∧ o.printer.written = o.sent.length)) := by
  intro start l o
  have hkeeps : l.Keeps (max capacity 1) fun stream ↦ start.fails stream schedule := by
    simpa using (keeps_ofPlan _ capacity).play schedule
  have hbooked := hkeeps.booked stream
  refine ⟨hbooked.printed_prefix, hbooked.booked.written_prefix_taken, fun hfails ↦ ?_⟩
  rw [hfails] at hbooked
  refine ⟨hbooked.length_sent_le, fun departure hdeparted ↦ ?_⟩
  obtain ⟨started, d', before, after, hstart, hcalls, hiff⟩ :=
    Console.runs_serve (runs_callsOf hdeparted)
  refine ⟨started, d', before, after, hstart, hcalls, hiff, fun hstarted ↦ ?_⟩
  obtain ⟨result, rfl⟩ := hiff.mp hstarted
  exact hbooked.printed_eq (hkeeps.ended hdeparted stream)

/-- A debugger that has nothing yet, and whose shells have printers. -/
def fresh : Debugger :=
  .ofDriver (.ofSettings ⟨⟨[0x61]⟩, ⟨[0x62]⟩, 1, ⟨0⟩, none⟩ 0 ⟨true, true⟩) 10

/-- The program on the fresh debugger, without a source and without a line to read. -/
def idle : Lifetime :=
  ofPlan (Console.serve (fun _ ↦ "") fresh none ⟨.unlimited, .unlimited⟩ []) 1

/-- The program makes a call, and the relays of the first shell act. The shell prints one letter on
each stream. -/
def relayRound (answer : (c : Call) → c.Answer) : List Party :=
  [.program answer [.octets [0x78]], .outlet .stdout (.relay 0), .outlet .stderr (.relay 0)]

/-- The shell reads its script, and after each call the printers act as well: the loop ends, and the
letter is printed. -/
theorem printed_at_end_one_letter :
    let schedule := (List.replicate 18 (relayRound (PlainSystem.ofShell true).answer ++
      [.outlet .stdout .printer, .outlet .stderr .printer])).flatten
    let l := Schedule.play act idle schedule
    let o := l.outlets.get .stdout
    idle.fails .stdout schedule = false ∧ l.departed.map Departure.code = some 0 ∧
      o.sent = [[0x78]] ∧ o.printed = [0x78] := by
  intro schedule l o
  have hfails : idle.fails .stdout schedule = false := by decide +kernel
  have hcode : l.departed.map Departure.code = some 0 := by decide +kernel
  have hsent : o.sent = [[0x78]] := by decide +kernel
  obtain ⟨-, -, hend⟩ :=
    printed_at_end (fun _ ↦ "") fresh none ⟨.unlimited, .unlimited⟩ [] 1 schedule .stdout
  obtain ⟨-, hdone⟩ := hend hfails
  obtain ⟨departure, hdeparted, hzero⟩ := Option.map_eq_some_iff.mp hcode
  obtain ⟨started, d', before, after, -, -, hiff, hprinted⟩ := hdone departure hdeparted
  have hstarted : started = .ok () := hiff.mpr ⟨_, Console.Departure.code_eq_zero_iff.mp hzero⟩
  have hall : o.printed = o.sent.flatten := (hprinted hstarted).1
  rw [hsent] at hall
  exact ⟨hfails, hcode, hsent, hall⟩

/-- The answers of a plain system on which the shell exits without reading its script. -/
def unread : (c : Call) → c.Answer
  | .watch .. => ([⟨.ok false, some (.code 3), ⟨0⟩⟩] : List Poll)
  | c => (PlainSystem.ofShell true).answer c

/-- When the first shell has exited without reading its script, the process can end before a printer
has had a turn, and the letter that the shell has printed is lost. -/
theorem not_all_printed_at_end :
    ¬ ∀ (logged : CommandError → String) (d : Debugger) (source : Option Path)
        (output : Debugger.Output) (readings : List Console.Reading) (capacity : Nat)
        (schedule : List Party) (stream : Stream),
      let start := ofPlan (Console.serve logged d source output readings) capacity
      let l := Schedule.play act start schedule
      l.departed.isSome = true → start.fails stream schedule = false →
        (l.outlets.get stream).printed = (l.outlets.get stream).sent.flatten := by
  intro hclaim
  let schedule : List Party := (List.replicate 14 (relayRound unread)).flatten
  let l := Schedule.play act idle schedule
  have hdeparted : l.departed.isSome = true := by decide +kernel
  have hfails : idle.fails .stdout schedule = false := by decide +kernel
  have hlost : (l.outlets.get .stdout).printed ≠ (l.outlets.get .stdout).sent.flatten := by
    decide +kernel
  exact hlost
    (hclaim (fun _ ↦ "") fresh none ⟨.unlimited, .unlimited⟩ [] 1 schedule .stdout hdeparted hfails)

end Lifetime
end ShellDebugger
