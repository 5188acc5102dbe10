import ShellDebugger.Host.Time
import ShellDebugger.Proofs.Host.PlanRuns

/-!
# Stages of a session

In what order a session may come and go, as a machine that reads the calls of a driver: at no time
is there more than one session, one is there only after its start, and it is gone only after it has
been taken apart step by step. `Stage.Permits` says which call may come next; a trace is orderly if
each of its calls was permitted when it was made. A session is gone when the removal of its pipe has
been asked for, whether the system grants that or not.
-/

namespace ShellDebugger

open Plan

structure Dismantling where
  pipe : Path
  child : ChildId
  /-- The relays that were started and not waited for yet. -/
  relays : List Stream
  senderDropped : Bool
  feederEnded : Bool
  inputClosed : Bool
  /-- The exit of the shell has been seen, whenever that was. -/
  exitSeen : Bool

inductive Stage where
  /-- Nothing. -/
  | free
  /-- A pipe, perhaps a shell with some relays, and no feeder yet. -/
  | starting (pipe : Path) (child : Option ChildId) (relays : List Stream)
  /-- A session, or what is left of it. -/
  | session (left : Dismantling)

/-- How far a session has been taken apart after a call. -/
def Dismantling.next (left : Dismantling) : Event → Dismantling
  | ⟨.dropSender _, _⟩ => { left with senderDropped := true }
  | ⟨.joinFeeder _, _⟩ | ⟨.joinFeederFor .., true⟩ => { left with feederEnded := true }
  | ⟨.closeInput _, _⟩ => { left with inputClosed := true }
  | ⟨.exitOf _, some _⟩ | ⟨.awaitExit _, _⟩ | ⟨.awaitExitFor .., some _⟩ =>
    { left with exitSeen := true }
  | ⟨.joinRelay _ stream, _⟩ => { left with relays := left.relays.filter (· != stream) }
  | _ => left

namespace Stage

def next (stage : Stage) (event : Event) : Stage :=
  match stage, event with
  | .free, ⟨.makePipe path, .ok _⟩ => .starting path none []
  | .starting pipe _ relays, ⟨.spawn .., .ok child⟩ => .starting pipe (some child) relays
  | .starting pipe child relays, ⟨.startRelay _ stream, _⟩ =>
    .starting pipe child (relays ++ [stream])
  | .starting pipe (some child) relays, ⟨.startFeeder .., _⟩ =>
    .session ⟨pipe, child, relays, false, false, false, false⟩
  | .starting .., ⟨.unlink _, _⟩ | .session _, ⟨.unlink _, _⟩ => .free
  | .session left, event => .session (left.next event)
  | stage, _ => stage

/-- The last call was a look whether a child has exited, and it has not. -/
def JustLooked (past : List Event) (child : ChildId) : Prop :=
  ∃ before, past = before ++ [⟨.exitOf child, none⟩]

/-- The last calls were a wait for a feeder or for a shell, which was longer than a limit, and a
look whether the shell has exited, which it has not. -/
def JustOutlasted (past : List Event) (child : ChildId) (limit : Duration) : Prop :=
  ∃ before wait, past = before ++ [wait, ⟨.exitOf child, none⟩] ∧
    (wait = ⟨.joinFeederFor child limit, false⟩ ∨ wait = ⟨.awaitExitFor child limit, none⟩)

/-- Whether a call may be made at a stage, after a trace, by a driver with a limit for waiting. A
session is taken apart in this order: the sending end of the feeder's queue is dropped, the feeder
has ended, the input of the shell is closed, its exit is seen, all relays are waited for, and the
pipe is removed. Only then a pipe may be made again, and only then a shell may be spawned. A shell
that is to end on its own is killed only if there is a limit, right after a wait has outlasted it
and the shell was looked at and has not exited. -/
def Permits (stage : Stage) (limit : Option Duration) (past : List Event) (call : Call) : Prop :=
  match stage, call with
  | .free, .inspect _ | .free, .drawNumber | .free, .makePipe _ => True
  | .starting _ child _, .spawn .. => child = none
  | .starting _ child _, .startRelay id _ | .starting _ child _, .watch id _ _
  | .starting _ child _, .startFeeder id _ _ | .starting _ child _, .closeInput id
  | .starting _ child _, .exitOf id | .starting _ child _, .awaitExit id
  | .starting _ child _, .joinRelay id _ => child = some id
  | .starting _ child _, .kill id => child = some id ∧ JustLooked past id
  | .starting pipe _ _, .unlink path => path = pipe
  | .session _, .inspect _ => True
  | .session left, .exitOf id => id = left.child
  | .session left, .send id _ => id = left.child ∧ left.senderDropped = false
  | .session left, .dropSender id => id = left.child ∧ left.senderDropped = false
  | .session left, .joinFeeder id => id = left.child ∧ left.senderDropped ∧ left.feederEnded = false
  | .session left, .joinFeederFor id time =>
    id = left.child ∧ left.senderDropped ∧ left.feederEnded = false ∧ limit = some time
  | .session left, .closeInput id =>
    id = left.child ∧ left.senderDropped ∧ left.feederEnded ∧ left.inputClosed = false
  | .session left, .awaitExit id =>
    id = left.child ∧ left.senderDropped ∧ left.feederEnded ∧ left.inputClosed ∧
      left.exitSeen = false
  | .session left, .awaitExitFor id time =>
    id = left.child ∧ left.senderDropped ∧ left.feederEnded ∧ left.inputClosed ∧
      left.exitSeen = false ∧ limit = some time
  | .session left, .joinRelay id stream =>
    id = left.child ∧ left.senderDropped ∧ left.feederEnded ∧ left.inputClosed ∧ left.exitSeen ∧
      stream ∈ left.relays
  | .session left, .unlink path =>
    path = left.pipe ∧ left.senderDropped ∧ left.feederEnded ∧ left.inputClosed ∧ left.exitSeen ∧
      left.relays = []
  | .session left, .kill id =>
    id = left.child ∧ left.senderDropped ∧ left.exitSeen = false ∧
      ∃ time, limit = some time ∧ JustOutlasted past id time
  | _, _ => False

/-- The stage after a trace that began with nothing. -/
def after (trace : List Event) : Stage :=
  trace.foldl next free

theorem after_append_one (past : List Event) (event : Event) :
    after (past ++ [event]) = (after past).next event := by
  simp only [after, List.foldl_append, List.foldl_cons, List.foldl_nil]

end Stage

/-- Each call of a trace was permitted when it was made. -/
def Orderly (limit : Option Duration) (trace : List Event) : Prop :=
  ∀ before event rest, trace = before ++ event :: rest →
    (Stage.after before).Permits limit before event.call

/-- The terms on which each call must be permitted. -/
def order (limit : Option Duration) : Terms where
  expects _ := True
  safe := Orderly limit

/-- A trace is orderly and ends at a stage. -/
structure At (limit : Option Duration) (stage : Stage) (past : List Event) : Prop where
  orderly : Orderly limit past
  stage_eq : Stage.after past = stage

section At

variable {limit : Option Duration} {stage : Stage} {past : List Event} {call : Call}

theorem at_nil : At limit .free [] where
  orderly := by
    intro before event rest htrace
    cases before <;> cases htrace
  stage_eq := rfl

theorem At.step (h : At limit stage past) (hpermits : stage.Permits limit past call)
    (answer : call.Answer) :
    At limit (stage.next ⟨call, answer⟩) (past ++ [⟨call, answer⟩]) where
  orderly := by
    intro before event rest htrace
    rcases List.eq_nil_or_concat rest with rfl | ⟨rest, last, rfl⟩
    · obtain ⟨rfl, hlast⟩ := List.append_inj' htrace rfl
      cases hlast
      rw [h.stage_eq]
      exact hpermits
    · rw [List.concat_eq_append, ← List.cons_append, ← List.append_assoc] at htrace
      obtain ⟨hpast, -⟩ := List.append_inj' htrace rfl
      exact h.orderly before event rest hpast
  stage_eq := by rw [Stage.after_append_one, h.stage_eq]

/-- What is ensured of a call that is permitted. -/
theorem At.ensures_call (h : At limit stage past) (hpermits : stage.Permits limit past call) :
    Ensures (order limit) (Plan.call call) past fun answer past' ↦
      past' = past ++ [⟨call, answer⟩] ∧ At limit (stage.next ⟨call, answer⟩) past' := by
  intro answer _
  have hstep := h.step hpermits answer
  exact ⟨hstep.orderly, rfl, hstep⟩

/-- A call that leaves the stage as it is. -/
theorem At.ensures_idle (h : At limit stage past) (hpermits : stage.Permits limit past call)
    (hidle : ∀ answer, stage.next ⟨call, answer⟩ = stage) :
    Ensures (order limit) (Plan.call call) past fun _ past' ↦ At limit stage past' :=
  (h.ensures_call hpermits).mono fun answer _ ⟨_, h⟩ ↦ hidle answer ▸ h

end At

end ShellDebugger
