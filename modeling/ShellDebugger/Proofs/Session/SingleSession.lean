import Mathlib.Data.List.Induction
import ShellDebugger.Proofs.Host.PlainSystem
import ShellDebugger.Proofs.Session.Holdings

/-!
# One session at a time

What every operation of a driver keeps, and so every sequence of operations: between two operations
the pipe and the child that are held are those of the driver's session, and a driver that was closed
has no session any more. A history also has the exits of shells that no call shows; they take a
child away from what is held and do nothing else.
-/

namespace ShellDebugger

open Plan

/-- What is held between operations is what belongs to the driver's session, and a closed driver has
none. -/
structure Settled (d : Driver) (past : List Event) : Prop where
  free : d.session = none → held past = .none
  owned : ∀ session, d.session = some session → Owned session past
  closed : d.closed = true → d.session = none

variable {past : List Event} {d : Driver}

theorem steady_settled (d : Driver) : Steady (Settled d) where
  keep := by
    intro past event h hidle
    refine ⟨fun hnone ↦ steady_free.keep (h.free hnone) hidle, fun session hsome ↦ ?_, h.closed⟩
    obtain ⟨hremoved, hholds⟩ := h.owned session hsome
    exact ⟨hremoved, (steady_holds _ _).keep hholds hidle⟩
  single := by
    intro past h
    cases hsession : d.session with
    | none => exact steady_free.single (h.free hsession)
    | some session => exact (steady_holds _ _).single (h.owned session hsession).2

/-- A driver without a session that holds nothing is settled. -/
theorem Settled.of_free (hsession : d.session = none) (h : held past = .none) : Settled d past where
  free _ := h
  owned session hsome := by rw [hsession] at hsome; cases hsome
  closed _ := hsession

theorem ensures_withoutSession (h : Settled d past) :
    Ensures thrift d.withoutSession past fun d' past ↦
      d' = { d with session := none } ∧ held past = .none := by
  unfold Driver.withoutSession
  cases hsession : d.session with
  | none => exact And.intro rfl (h.free hsession)
  | some session =>
    exact (ensures_teardown d (h.owned session hsession)).bind fun _ _ h ↦ ⟨rfl, h⟩

theorem ensures_start (h : Settled d past) :
    Ensures thrift d.start past fun result past ↦
      Settled result.2 past ∧ result.2.closed = d.closed := by
  unfold Driver.start
  cases hclosed : d.closed with
  | true => exact And.intro h hclosed
  | false =>
    refine (ensures_withoutSession h).bind fun d' past ⟨hd', h⟩ ↦ ?_
    subst hd'
    refine (ensures_startSession _ h).bind fun result past h ↦ ?_
    cases result with
    | error e => exact ⟨.of_free rfl h, hclosed⟩
    | ok session =>
      refine ⟨⟨nofun, ?_, ?_⟩, hclosed⟩
      · rintro session' ⟨⟩
        exact h
      · intro hclosed'
        rw [hclosed] at hclosed'
        cases hclosed'

theorem ensures_close (h : Settled d past) :
    Ensures thrift d.close past fun d' past ↦ Settled d' past ∧ d'.closed = true := by
  unfold Driver.close Driver.withoutSession
  cases hsession : d.session with
  | none => exact And.intro (.of_free rfl (h.free hsession)) rfl
  | some session =>
    refine (ensures_teardown _ (h.owned session hsession)).bind fun _ _ h ↦ ?_
    exact ⟨.of_free rfl h, rfl⟩

theorem Steady.ensures_checkSource {P : List Event → Prop} (hP : Steady P) (h : P past)
    (path : Path) : Ensures thrift (Driver.checkSource path) past fun _ past ↦ P past := by
  unfold Driver.checkSource
  refine (hP.ensures_call h fun _ _ ↦ rfl).bind fun answer past h ↦ ?_
  split
  · exact h
  · exact h
  · split <;> exact h

theorem ensures_load (h : Settled d past) (path : Path) :
    Ensures thrift (d.load path) past fun result past ↦
      Settled result.2 past ∧ result.2.closed = d.closed := by
  unfold Driver.load
  cases hclosed : d.closed with
  | true => exact And.intro h hclosed
  | false =>
    refine ((steady_settled d).ensures_checkSource h path).bind fun checked past h ↦ ?_
    cases checked with
    | ok _ => exact ⟨⟨h.free, h.owned, nofun⟩, rfl⟩
    | error e => exact ⟨h, hclosed⟩

theorem ensures_driver_observe (h : Settled d past) :
    Ensures thrift d.observe past fun d' past ↦ Settled d' past ∧ d'.closed = d.closed := by
  unfold Driver.observe
  cases hsession : d.session with
  | none => exact And.intro h rfl
  | some session =>
    obtain ⟨hremoved, hholds⟩ := h.owned session hsession
    refine (ensures_observe hholds).bind fun child past ⟨_, hholds⟩ ↦ ?_
    refine ⟨⟨nofun, ?_, ?_⟩, rfl⟩
    · rintro session' ⟨⟩
      exact ⟨hremoved, hholds⟩
    · intro hclosed
      have hnone := h.closed hclosed
      rw [hsession] at hnone
      cases hnone

theorem ensures_enqueue (h : Settled d past) (line : String) :
    Ensures thrift (d.enqueue line) past fun result past ↦
      Settled result.2 past ∧ result.2.closed = d.closed := by
  unfold Driver.enqueue
  refine (ensures_driver_observe h).bind fun d' past ⟨h, hclosed⟩ ↦ ?_
  split
  · exact ⟨h, hclosed⟩
  · exact ((steady_settled d').ensures_call h fun _ _ ↦ rfl).bind fun _ _ h ↦ ⟨h, hclosed⟩

theorem ensures_submit (h : Settled d past) (words : List String) :
    Ensures thrift (d.submit words) past fun result past ↦
      Settled result.2 past ∧ result.2.closed = d.closed := by
  unfold Driver.submit
  split
  · exact ⟨h, rfl⟩
  · exact ensures_enqueue h _

theorem ensures_status (h : Settled d past) :
    Ensures thrift d.status past fun result past ↦
      Settled result.2 past ∧ result.2.closed = d.closed := by
  unfold Driver.status
  split
  · exact ⟨h, rfl⟩
  · exact (ensures_driver_observe h).bind fun _ _ h ↦ h

/-- Every operation leaves the driver settled, a close closes it, and nothing opens it again. -/
theorem ensures_perform (h : Settled d past) (operation : Operation) :
    Ensures thrift (d.perform operation) past fun result past ↦
      Settled result.2 past ∧ (d.closed = true ∨ operation = .close → result.2.closed = true) := by
  have hkept {d' : Driver} (hclosed : d'.closed = d.closed) (hne : operation ≠ .close) :
      d.closed = true ∨ operation = .close → d'.closed = true := by
    rintro (hd | hoperation)
    · rw [hclosed, hd]
    · exact absurd hoperation hne
  cases operation with
  | load path =>
    exact (ensures_load h path).bind fun _ _ ⟨h, hclosed⟩ ↦ ⟨h, hkept hclosed nofun⟩
  | start => exact (ensures_start h).bind fun _ _ ⟨h, hclosed⟩ ↦ ⟨h, hkept hclosed nofun⟩
  | reload => exact (ensures_start h).bind fun _ _ ⟨h, hclosed⟩ ↦ ⟨h, hkept hclosed nofun⟩
  | submit words =>
    exact (ensures_submit h words).bind fun _ _ ⟨h, hclosed⟩ ↦ ⟨h, hkept hclosed nofun⟩
  | submitLine line =>
    exact (ensures_enqueue h _).bind fun _ _ ⟨h, hclosed⟩ ↦ ⟨h, hkept hclosed nofun⟩
  | status => exact (ensures_status h).bind fun _ _ ⟨h, hclosed⟩ ↦ ⟨h, hkept hclosed nofun⟩
  | close => exact (ensures_close h).bind fun _ _ ⟨h, hclosed⟩ ↦ ⟨h, fun _ ↦ hclosed⟩

theorem ensures_performAll (operations : List Operation) (h : Settled d past) :
    Ensures thrift (d.performAll operations) past fun result past ↦
      Settled result.2 past ∧
        (d.closed = true ∨ .close ∈ operations → result.2.closed = true) := by
  induction operations generalizing d past with
  | nil =>
    refine And.intro h ?_
    rintro (hclosed | hmem)
    · exact hclosed
    · cases hmem
  | cons operation rest ih =>
    refine (ensures_perform h operation).bind fun result past ⟨h, hclosed⟩ ↦ ?_
    refine (ih h).bind fun result' past ⟨h, hclosed'⟩ ↦ ⟨h, ?_⟩
    rintro (hd | hmem)
    · exact hclosed' (.inl (hclosed (.inl hd)))
    · rcases List.mem_cons.mp hmem with hclose | hmem
      · exact hclosed' (.inl (hclosed (.inr hclose.symm)))
      · exact hclosed' (.inr hmem)

/-! ## Shells that exit at any moment -/

/-- Something that happens while a driver works: a call is answered, or a child exits and is reaped,
whether or not a call shows it. -/
inductive Incident where
  | answered (event : Event)
  | exited (child : ChildId)

namespace Incident

def after (r : Resources) : Incident → Resources
  | .answered event => r.after event
  | .exited child => r.reap child

/-- The child that an incident brings into being, if any. -/
def spawned : Incident → List ChildId
  | .answered event => spawnedBy event
  | .exited _ => []

/-- Whether a child has exited, at the latest now: it exits here, or an answer shows its exit. -/
def ends (child : ChildId) : Incident → Bool
  | .exited ended => child == ended
  | .answered ⟨.exitOf ended, some _⟩ => child == ended
  | .answered ⟨.watch ended _ _, polls⟩ =>
    child == ended && List.any (polls : List Poll) (·.exit.isSome)
  | .answered ⟨.awaitExit ended, _⟩ => child == ended
  | .answered ⟨.awaitExitFor ended _, some _⟩ => child == ended
  | _ => false

/-- Children are held until they end. -/
theorem children_after (r : Resources) (incident : Incident) :
    (incident.after r).children =
      r.children.filter (fun child ↦ !incident.ends child) ++ incident.spawned := by
  have hall : r.children.filter (fun _ ↦ true) = r.children := List.filter_eq_self.mpr fun _ _ ↦ rfl
  cases incident with
  | exited ended => simp [after, spawned, ends, Resources.reap, bne]
  | answered event =>
    obtain ⟨call, answer⟩ := event
    cases call with
    | spawn | makePipe | unlink | exitOf | awaitExitFor =>
      cases answer <;>
        simp [after, spawned, spawnedBy, ends, Resources.after, Resources.reap, hall, bne]
    | watch ended script timeout =>
      by_cases hshown : List.any (answer : List Poll) (·.exit.isSome) <;>
        simp [after, spawned, spawnedBy, ends, Resources.after, Resources.reap, hall, hshown, bne]
    | _ => simp [after, spawned, spawnedBy, ends, Resources.after, Resources.reap, hall, bne]

theorem pipes_after_congr {r s : Resources} (h : r.pipes = s.pipes) (event : Event) :
    (r.after event).pipes = (s.after event).pipes := by
  obtain ⟨call, answer⟩ := event
  cases call with
  | spawn | makePipe | unlink | exitOf | awaitExitFor =>
    cases answer <;> simp [Resources.after, Resources.reap, h]
  | watch ended script timeout =>
    by_cases hshown : List.any (answer : List Poll) (·.exit.isSome) <;>
      simp [Resources.after, Resources.reap, hshown, h]
  | _ => simp [Resources.after, Resources.reap, h]

end Incident

/-- The incidents of a driver's life, in order. -/
abbrev History := List Incident

namespace History

def calls (history : History) : List Event :=
  history.filterMap fun
    | .answered event => some event
    | .exited _ => none

/-- The history in which what a trace shows happens and nothing else. -/
def ofTrace (trace : List Event) : History :=
  trace.map .answered

/-- What is held after a history that began with nothing held. -/
def held (history : History) : Resources :=
  history.foldl Incident.after .none

/-- Whether a child has exited since it was spawned. -/
def hasExited (history : History) (child : ChildId) : Bool :=
  history.foldl
    (fun exited incident ↦ !incident.spawned.contains child && (exited || incident.ends child))
    false

theorem calls_append (first rest : History) : calls (first ++ rest) = calls first ++ calls rest :=
  List.filterMap_append

theorem calls_ofTrace (trace : List Event) : calls (ofTrace trace) = trace := by
  induction trace with
  | nil => rfl
  | cons event rest ih => exact congrArg (event :: ·) ih

theorem mem_ofTrace_iff {trace : List Event} {event : Event} :
    .answered event ∈ ofTrace trace ↔ event ∈ trace := by
  simp [ofTrace]

theorem held_append_one (history : History) (incident : Incident) :
    held (history ++ [incident]) = incident.after (held history) := by
  simp only [held, List.foldl_append, List.foldl_cons, List.foldl_nil]

theorem hasExited_append_one (history : History) (incident : Incident) (child : ChildId) :
    hasExited (history ++ [incident]) child =
      (!incident.spawned.contains child && (hasExited history child || incident.ends child)) := by
  simp only [hasExited, List.foldl_append, List.foldl_cons, List.foldl_nil]

theorem spawned_calls_append_one (history : History) (incident : Incident) :
    spawned (calls (history ++ [incident])) = spawned (calls history) ++ incident.spawned := by
  rw [calls_append, spawned_append]
  cases incident with
  | exited ended => rfl
  | answered event => simp [calls, spawned, Incident.spawned]

/-- Exits that no call shows change nothing but that fewer children are held. -/
theorem held_calls (history : History) :
    (held history).pipes = (ShellDebugger.held (calls history)).pipes ∧
      (held history).children.Sublist (ShellDebugger.held (calls history)).children := by
  induction history using List.reverseRecOn with
  | nil => exact ⟨rfl, .refl _⟩
  | append_singleton history incident ih =>
    obtain ⟨hpipes, hchildren⟩ := ih
    rw [held_append_one, calls_append, Incident.children_after]
    cases incident with
    | exited ended =>
      rw [show calls [.exited ended] = [] from rfl, List.append_nil]
      refine ⟨hpipes, ?_⟩
      rw [show (Incident.exited ended).spawned = [] from rfl, List.append_nil]
      exact List.filter_sublist.trans hchildren
    | answered event =>
      rw [show calls [.answered event] = [event] from rfl, ShellDebugger.held_append_one]
      refine ⟨Incident.pipes_after_congr hpipes event, ?_⟩
      change List.Sublist _ ((Incident.answered event).after _).children
      rw [Incident.children_after]
      exact (hchildren.filter _).append_right _

/-- The children that are held are those that were spawned and have not exited since. -/
theorem mem_children_held_iff (history : History) (child : ChildId) :
    child ∈ (held history).children ↔
      child ∈ spawned (calls history) ∧ hasExited history child = false := by
  induction history using List.reverseRecOn with
  | nil => exact ⟨nofun, nofun⟩
  | append_singleton history incident ih =>
    rw [held_append_one, Incident.children_after, spawned_calls_append_one, hasExited_append_one]
    by_cases hspawned : child ∈ incident.spawned
    · simp [hspawned]
    · simp [hspawned, ih, and_assoc]

/-- Every removal in the history succeeds. -/
def removalsSucceed (history : History) : Prop :=
  ∀ event, .answered event ∈ history → RemovalSucceeds event

variable {history : History}

theorem removalSucceeds_of_mem_calls (hremovals : history.removalsSucceed) :
    ∀ event ∈ history.calls, RemovalSucceeds event := by
  intro event hevent
  obtain ⟨incident, hincident, heq⟩ := List.mem_filterMap.mp hevent
  cases incident with
  | exited ended => cases heq
  | answered event' =>
    cases heq
    exact hremovals event hincident

theorem single_held (hsingle : (ShellDebugger.held history.calls).Single) :
    history.held.Single := by
  obtain ⟨hpipes, hchildren⟩ := history.held_calls
  exact ⟨hpipes ▸ hsingle.1, Nat.le_trans hchildren.length_le hsingle.2⟩

theorem pipes_held (hsettled : Settled d history.calls) :
    history.held.pipes = d.session.toList.map (·.pipe.path) := by
  rw [history.held_calls.1]
  cases hsession : d.session with
  | none =>
    rw [hsettled.free hsession]
    rfl
  | some session =>
    obtain ⟨-, -, hpiped | ⟨hheld, -⟩⟩ := hsettled.owned session hsession
    · rw [hpiped]
      rfl
    · rw [hheld]
      rfl

theorem children_held (hsettled : Settled d history.calls) :
    history.held.children =
      (d.session.toList.map (·.child.id)).filter fun child ↦ !history.hasExited child := by
  have hsublist := history.held_calls.2
  cases hsession : d.session with
  | none =>
    rw [hsettled.free hsession] at hsublist
    exact List.sublist_nil.mp hsublist
  | some session =>
    obtain ⟨-, hspawned, hheld⟩ := hsettled.owned session hsession
    have hsingleton : history.held.children.Sublist [session.child.id] := by
      rcases hheld with hpiped | ⟨hheld, -⟩
      · rw [hpiped] at hsublist
        exact hsublist.trans (List.nil_sublist _)
      · rwa [hheld] at hsublist
    have hmem := history.mem_children_held_iff session.child.id
    rcases List.sublist_cons_iff.mp hsingleton with hnil | ⟨rest, hone, hrest⟩
    · have hexited : history.hasExited session.child.id = true := by
        rw [List.sublist_nil.mp hnil] at hmem
        simpa [hspawned] using hmem
      simp [List.sublist_nil.mp hnil, hexited]
    · have halive : history.hasExited session.child.id = false :=
        (hmem.mp (by rw [hone]; exact List.mem_cons_self)).2
      simp [hone, List.sublist_nil.mp hrest, halive]

end History

/-- A driver that has just been made. -/
theorem settled_ofSettings (settings : SessionSettings) (processId : Nat) (sinks : PerStream Bool) :
    Settled (.ofSettings settings processId sinks) [] :=
  .of_free rfl rfl

/-- However far a driver has got, at most one pipe and at most one child are held. After any
operations that is the pipe of its session and, unless it has exited, the child of its session; and
a driver that was closed among them is closed and has no session. Removing a pipe is assumed to
succeed. -/
theorem performAll_holds_session (settings : SessionSettings) (processId : Nat)
    (sinks : PerStream Bool) (operations : List Operation) :
    (∀ history : History, history.removalsSucceed →
      Begins ((Driver.ofSettings settings processId sinks).performAll operations) history.calls →
      history.held.Single) ∧
    ∀ (history : History) (answers : List Operation.Answer) (d : Driver), history.removalsSucceed →
      Runs ((Driver.ofSettings settings processId sinks).performAll operations) history.calls
        (answers, d) →
      history.held.pipes = d.session.toList.map (·.pipe.path) ∧
      history.held.children =
        (d.session.toList.map (·.child.id)).filter (fun child ↦ !history.hasExited child) ∧
      (.close ∈ operations → d.closed = true ∧ d.session = none) := by
  have hensures := ensures_performAll operations (settled_ofSettings settings processId sinks)
  constructor
  · intro history hremovals hbegins
    have hsingle := hensures.safe_of_begins hbegins (history.removalSucceeds_of_mem_calls hremovals)
      (steady_free.single rfl)
    exact history.single_held hsingle
  · intro history answers d hremovals hrun
    obtain ⟨hsettled, hclosed⟩ := hensures.of_runs_nil hrun
      (history.removalSucceeds_of_mem_calls hremovals)
    refine ⟨history.pipes_held hsettled, history.children_held hsettled, fun hclose ↦ ?_⟩
    exact ⟨hclosed (.inr hclose), hsettled.closed (hclosed (.inr hclose))⟩

/-- On a plain system a driver that is started and closed has held no more than one pipe and one
child, and holds nothing in the end. -/
theorem performAll_start_close_holds_nothing :
    let plan := (Driver.ofSettings ⟨⟨[0x61]⟩, ⟨[0x62]⟩, 1, ⟨0⟩, none⟩ 0 ⟨true, true⟩).performAll
      [.start, .close]
    let history := History.ofTrace ((PlainSystem.ofShell true).trace plan)
    history.held.Single ∧ history.held.pipes = [] ∧ history.held.children = [] := by
  intro plan history
  have hrun : Runs plan history.calls ((PlainSystem.ofShell true).result plan) := by
    rw [History.calls_ofTrace]
    exact PlainSystem.runs _ plan
  have hremovals : history.removalsSucceed := by
    rintro ⟨call, answer⟩ hevent
    cases call with
    | unlink path =>
      exact PlainSystem.answer_of_mem_trace _ (History.mem_ofTrace_iff.mp hevent)
    | _ => trivial
  have hholds := performAll_holds_session ⟨⟨[0x61]⟩, ⟨[0x62]⟩, 1, ⟨0⟩, none⟩ 0 ⟨true, true⟩
    [.start, .close]
  obtain ⟨hpipes, hchildren, hclosed⟩ := hholds.2 history _ _ hremovals hrun
  have hsession := (hclosed (by decide)).2
  rw [hsession] at hpipes hchildren
  exact ⟨hholds.1 history hremovals hrun.begins, hpipes, hchildren⟩

end ShellDebugger
