import Mathlib
import ShellDebugger.Host.FileTree
import ShellDebugger.Proofs.Host.PlainSystem
import ShellDebugger.Proofs.Session.Attempt
import ShellDebugger.Proofs.Session.Delivery
import ShellDebugger.Proofs.Session.Holdings
import ShellDebugger.Proofs.Session.Source
import ShellDebugger.Session.Operation

/-!
# Outcomes of a start

A driver that is closed refuses to start a session. Any other one tears down the session that it
has and attempts to start another. Either this succeeds, with a pipe that was made in the attempt, a
queue that nothing has been put into and the shell that reads the pipe; or it fails for one reason,
and the attempt has taken back what it made: the removal of the pipe is asked for, the shell is seen
to exit and no relay is left alone. A pipe whose removal the system refuses stays, and the start
tells nothing of it. The driver has no session then, and refuses lines until it is started again.
-/

namespace ShellDebugger

open Plan

/-! ## What an attempt makes and takes back -/

def madeBy : Event → Option Path
  | ⟨.makePipe path, .ok _⟩ => some path
  | _ => none

/-- The file whose removal an event asks for, if any. -/
def givenUpBy : Event → Option Path
  | ⟨.unlink path, _⟩ => some path
  | _ => none

/-- The file whose removal is refused in an event, if any. -/
def leftBy : Event → Option Path
  | ⟨.unlink path, .error _⟩ => some path
  | _ => none

/-- Why a process could not be started in an event, if one could not. -/
def unspawnedBy : Event → Option IoError
  | ⟨.spawn .., .error cause⟩ => some cause
  | _ => none

def relayedBy : Event → Option (ChildId × Stream)
  | ⟨.startRelay child stream, _⟩ => some (child, stream)
  | _ => none

/-- The relay of which an event knows that it has ended or is abandoned, if any. -/
def joinedBy : Event → Option (ChildId × Stream)
  | ⟨.joinRelay child stream, _⟩ => some (child, stream)
  | _ => none

/-- An attempt to start a session has failed, and what it made has been taken back. -/
structure Driver.HasTakenBack (d : Driver) (attempt : List Event) (cause : SessionError) :
    Prop where
  /-- One of the three steps has failed. -/
  step : (∃ path failure, cause = .pipeNotMade path failure) ∨
    (∃ failure, cause = .notSpawned d.settings.shell failure) ∨
    ∃ path reason, cause = .pipeNotOpened path reason
  /-- The failure is told as one of starting the shell if and only if this is what failed. -/
  spawn : (SessionError.startFailed cause).isSpawn = true ↔ attempt.filterMap unspawnedBy ≠ []
  /-- The removal of every pipe that was made has been asked for. -/
  givenUp : attempt.filterMap givenUpBy = attempt.filterMap madeBy
  /-- The pipes that are left are those that the system has refused to remove. -/
  left : (held attempt).pipes = attempt.filterMap leftBy
  /-- Every shell that was started has been seen to exit. -/
  reaped : (held attempt).children = []
  /-- Every relay that was started has ended or has been abandoned. -/
  joined : attempt.filterMap joinedBy = attempt.filterMap relayedBy

/-! ### Views of an attempt -/

theorem Fruitless.isIdle {names : List Event} (hnames : Fruitless names) :
    ∀ event ∈ names, IsIdle event := by
  intro event hevent
  rcases hnames event hevent with ⟨number, rfl⟩ | ⟨path, cause, rfl⟩ <;> exact fun _ ↦ rfl

/-- Nothing is made before a pipe can be made. -/
theorem Driver.Names.fruitless {d : Driver} {names : List Event} {path : Path}
    (hnames : d.Names names path) : Fruitless names := by
  obtain ⟨tried, number, htried, rfl, -⟩ := hnames
  intro event hevent
  rcases List.mem_append.mp hevent with hmem | hmem
  · exact htried event hmem
  · exact .inl ⟨number, List.mem_singleton.mp hmem⟩

/-- What a view shows of a trace has nothing to do with numbers, names that are refused and the ends
of shells. -/
structure IsBlind {α : Type} (f : Event → Option α) : Prop where
  drawn : ∀ number : UInt64, f ⟨.drawNumber, number⟩ = none
  refused : ∀ path cause, f ⟨.makePipe path, .error cause⟩ = none
  looked : ∀ child (exit : Option Exit), f ⟨.exitOf child, exit⟩ = none
  killed : ∀ child, f ⟨.kill child, ()⟩ = none
  awaited : ∀ child (exit : Exit), f ⟨.awaitExit child, exit⟩ = none

namespace IsBlind

theorem of_madeBy : IsBlind madeBy := by
  constructor <;> intros <;> rfl

theorem of_givenUpBy : IsBlind givenUpBy := by
  constructor <;> intros <;> rfl

theorem of_leftBy : IsBlind leftBy := by
  constructor <;> intros <;> rfl

theorem of_unspawnedBy : IsBlind unspawnedBy := by
  constructor <;> intros <;> rfl

theorem of_relayedBy : IsBlind relayedBy := by
  constructor <;> intros <;> rfl

theorem of_joinedBy : IsBlind joinedBy := by
  constructor <;> intros <;> rfl

variable {α : Type} {f : Event → Option α} {d : Driver} {names ending : List Event} {path : Path}
  {child : ChildId}

theorem filterMap_names (hf : IsBlind f) (hnames : Fruitless names) : names.filterMap f = [] := by
  apply List.filterMap_eq_nil_iff.mpr
  intro event hevent
  rcases hnames event hevent with ⟨number, rfl⟩ | ⟨path, cause, rfl⟩
  · exact hf.drawn number
  · exact hf.refused path cause

theorem filterMap_ending (hf : IsBlind f) (hends : Ends child ending) :
    ending.filterMap f = [] := by
  cases hends with
  | exited exit => simp [hf.looked]
  | killed exit => simp [hf.looked, hf.killed, hf.awaited]

/-- What is shown of an attempt in which the shell does not read its script. -/
theorem filterMap_unopened (hf : IsBlind f) (hnames : Fruitless names) (hends : Ends child ending)
    (watch close removal : Event) (ended : Stream → Bool) :
    (names ++ (d.launch path child ++
      watch :: close :: (ending ++ (relayJoins child d.sinks ended ++ [removal])))).filterMap f =
        (d.launch path child).filterMap f ++ ([watch, close].filterMap f ++
          ((relayJoins child d.sinks ended).filterMap f ++ [removal].filterMap f)) := by
  calc
    _ = (names ++ (d.launch path child ++
          ([watch, close] ++
            (ending ++ (relayJoins child d.sinks ended ++ [removal]))))).filterMap f :=
      rfl
    _ = _ := by
      simp only [List.filterMap_append, hf.filterMap_names hnames, hf.filterMap_ending hends,
        List.nil_append]

end IsBlind

section Relays

variable {d : Driver} {path : Path} {child : ChildId} {captured : PerStream Bool}

/-- What has nothing to do with relays is shown of the pipe and the shell alone. -/
theorem Driver.filterMap_launch {α : Type} {f : Event → Option α}
    (hf : ∀ stream, f ⟨.startRelay child stream, ()⟩ = none) :
    (d.launch path child).filterMap f = [⟨.makePipe path, .ok ()⟩,
      ⟨.spawn d.settings.shell [path.octets] d.sinks, .ok child⟩].filterMap f := by
  have hrelays : (relayStarts child d.sinks).filterMap f = [] := by
    apply List.filterMap_eq_nil_iff.mpr
    simp [relayStarts, hf]
  rw [launch, List.filterMap_append, hrelays, List.append_nil]

theorem Driver.filterMap_relayedBy_launch (d : Driver) (path : Path) (child : ChildId) :
    (d.launch path child).filterMap relayedBy =
      (streamsOf d.sinks).map fun stream ↦ (child, stream) := by
  rw [← List.filterMap_eq_map]
  exact List.filterMap_map

theorem filterMap_relayJoins {α : Type} {f : Event → Option α} {ended : Stream → Bool}
    (hf : ∀ stream, f ⟨.joinRelay child stream, ended stream⟩ = none) :
    (relayJoins child captured ended).filterMap f = [] := by
  apply List.filterMap_eq_nil_iff.mpr
  simp [relayJoins, hf]

theorem filterMap_joinedBy_relayJoins (child : ChildId) (captured : PerStream Bool)
    (ended : Stream → Bool) :
    (relayJoins child captured ended).filterMap joinedBy =
      (streamsOf captured).map fun stream ↦ (child, stream) := by
  rw [← List.filterMap_eq_map]
  exact List.filterMap_map

end Relays

/-! ### What is held during an attempt -/

theorem Resources.afterAll_append (r : Resources) (first rest : List Event) :
    r.afterAll (first ++ rest) = (r.afterAll first).afterAll rest :=
  List.foldl_append

theorem Resources.afterAll_cons (r : Resources) (event : Event) (rest : List Event) :
    r.afterAll (event :: rest) = (r.after event).afterAll rest := rfl

theorem Resources.afterAll_of_isIdle {trace : List Event} (hidle : ∀ event ∈ trace, IsIdle event)
    (r : Resources) : r.afterAll trace = r := by
  induction trace generalizing r with
  | nil => rfl
  | cons event rest ih =>
    obtain ⟨hevent, hrest⟩ := List.forall_mem_cons.mp hidle
    calc
      r.afterAll (event :: rest) = (r.after event).afterAll rest := r.afterAll_cons event rest
      _ = r.afterAll rest := by rw [hevent r]
      _ = r := ih hrest r

/-- A shell that is brought to its end is held no more. -/
theorem Ends.afterAll_eq {child : ChildId} {ending : List Event} (hends : Ends child ending)
    (r : Resources) : r.afterAll ending = r.reap child := by
  cases hends with
  | exited exit => rfl
  | killed exit => rfl

/-- A pipe and a shell are held after they have been made. -/
theorem Driver.afterAll_launch (d : Driver) (path : Path) (child : ChildId) :
    Resources.none.afterAll (d.launch path child) = ⟨[path], [child]⟩ := by
  have hrelays : ∀ event ∈ relayStarts child d.sinks, IsIdle event := by
    simp [relayStarts, IsIdle, Resources.after]
  rw [launch, Resources.afterAll_append, Resources.afterAll_of_isIdle hrelays]
  rfl

/-- A watch may show that the shell has exited, and then it is held no more. -/
theorem Resources.reap_after_watch (r : Resources) (child : ChildId) (path : Path)
    (limit : Duration) (polls : List Poll) :
    (r.after ⟨.watch child path limit, polls⟩).reap child = r.reap child := by
  change Resources.reap (if polls.any (·.exit.isSome) then r.reap child else r) child = _
  split
  · simp [reap]
  · rfl

section Attempt

variable {d : Driver} {names ending : List Event} {path : Path} {child : ChildId}

theorem held_unspawned (hnames : Fruitless names) (cause : IoError)
    (removal : Except IoError Unit) :
    held (names ++ [⟨.makePipe path, .ok ()⟩,
      ⟨.spawn d.settings.shell [path.octets] d.sinks, .error cause⟩, ⟨.unlink path, removal⟩]) =
        (⟨[path], []⟩ : Resources).after ⟨.unlink path, removal⟩ := by
  rw [held, Resources.afterAll_append, Resources.afterAll_of_isIdle hnames.isIdle]
  rfl

theorem held_unopened (hnames : Fruitless names) (hends : Ends child ending) (polls : List Poll)
    (ended : Stream → Bool) (removal : Except IoError Unit) :
    held (names ++ (d.launch path child ++
      ⟨.watch child path d.settings.openTimeout, polls⟩ :: ⟨.closeInput child, ()⟩ ::
        (ending ++ (relayJoins child d.sinks ended ++ [⟨.unlink path, removal⟩])))) =
          (⟨[path], []⟩ : Resources).after ⟨.unlink path, removal⟩ := by
  have hjoins : ∀ event ∈ relayJoins child d.sinks ended, IsIdle event := by
    simp [relayJoins, IsIdle, Resources.after]
  let launched : Resources := ⟨[path], [child]⟩
  let watch : Event := ⟨.watch child path d.settings.openTimeout, polls⟩
  calc
    _ = ((launched.after watch).reap child).after ⟨.unlink path, removal⟩ := by
      simp only [held, Resources.afterAll_append, Resources.afterAll_cons,
        Resources.afterAll_of_isIdle hnames.isIdle, Driver.afterAll_launch, hends.afterAll_eq,
        Resources.afterAll_of_isIdle hjoins]
      rfl
    _ = (launched.reap child).after ⟨.unlink path, removal⟩ := by
      rw [Resources.reap_after_watch]
    _ = _ := by simp [launched, Resources.reap]

theorem pipes_after_unlink (removal : Except IoError Unit) :
    ((⟨[path], []⟩ : Resources).after ⟨.unlink path, removal⟩).pipes =
      [⟨.unlink path, removal⟩].filterMap leftBy := by
  cases removal with
  | error cause => rfl
  | ok _ =>
    change [path].filter (· != path) = []
    simp

theorem children_after_unlink (removal : Except IoError Unit) :
    ((⟨[path], []⟩ : Resources).after ⟨.unlink path, removal⟩).children = [] := by
  cases removal <;> rfl

end Attempt

/-! ## What an attempt comes to -/

section Outcome

variable {d : Driver} {names ending : List Event} {path : Path} {child : ChildId}

theorem hasTakenBack_unmade (hnames : Fruitless names) (path : Path) (cause : IoError) :
    d.HasTakenBack names (.pipeNotMade path cause) where
  step := .inl ⟨path, cause, rfl⟩
  spawn := by
    rw [IsBlind.of_unspawnedBy.filterMap_names hnames]
    exact ⟨nofun, fun hne ↦ absurd rfl hne⟩
  givenUp := by
    rw [IsBlind.of_givenUpBy.filterMap_names hnames, IsBlind.of_madeBy.filterMap_names hnames]
  left := by
    rw [held, Resources.afterAll_of_isIdle hnames.isIdle, IsBlind.of_leftBy.filterMap_names hnames]
    rfl
  reaped := by
    rw [held, Resources.afterAll_of_isIdle hnames.isIdle]
    rfl
  joined := by
    rw [IsBlind.of_joinedBy.filterMap_names hnames, IsBlind.of_relayedBy.filterMap_names hnames]

theorem hasTakenBack_unspawned (hnames : Fruitless names) (cause : IoError)
    (removal : Except IoError Unit) :
    d.HasTakenBack
      (names ++ [⟨.makePipe path, .ok ()⟩,
        ⟨.spawn d.settings.shell [path.octets] d.sinks, .error cause⟩, ⟨.unlink path, removal⟩])
      (.notSpawned d.settings.shell cause) where
  step := .inr (.inl ⟨cause, rfl⟩)
  spawn := by
    rw [List.filterMap_append, IsBlind.of_unspawnedBy.filterMap_names hnames]
    exact ⟨fun _ ↦ nofun, fun _ ↦ rfl⟩
  givenUp := by
    rw [List.filterMap_append, List.filterMap_append,
      IsBlind.of_givenUpBy.filterMap_names hnames, IsBlind.of_madeBy.filterMap_names hnames]
    rfl
  left := by
    rw [held_unspawned hnames, pipes_after_unlink, List.filterMap_append,
      IsBlind.of_leftBy.filterMap_names hnames]
    rfl
  reaped := by
    rw [held_unspawned hnames]
    exact children_after_unlink removal
  joined := by
    rw [List.filterMap_append, List.filterMap_append,
      IsBlind.of_joinedBy.filterMap_names hnames, IsBlind.of_relayedBy.filterMap_names hnames]
    rfl

theorem hasTakenBack_unopened (hnames : Fruitless names) (hends : Ends child ending)
    (polls : List Poll) (ended : Stream → Bool) (removal : Except IoError Unit)
    (reason : OpenFailure) :
    d.HasTakenBack
      (names ++ (d.launch path child ++
        ⟨.watch child path d.settings.openTimeout, polls⟩ :: ⟨.closeInput child, ()⟩ ::
          (ending ++ (relayJoins child d.sinks ended ++ [⟨.unlink path, removal⟩]))))
      (.pipeNotOpened path reason) where
  step := .inr (.inr ⟨path, reason, rfl⟩)
  spawn := by
    rw [IsBlind.of_unspawnedBy.filterMap_unopened hnames hends,
      Driver.filterMap_launch fun _ ↦ rfl, filterMap_relayJoins fun _ ↦ rfl]
    exact ⟨nofun, fun hne ↦ absurd rfl hne⟩
  givenUp := by
    rw [IsBlind.of_givenUpBy.filterMap_unopened hnames hends,
      IsBlind.of_madeBy.filterMap_unopened hnames hends,
      Driver.filterMap_launch fun _ ↦ rfl, filterMap_relayJoins fun _ ↦ rfl,
      Driver.filterMap_launch fun _ ↦ rfl, filterMap_relayJoins fun _ ↦ rfl]
    rfl
  left := by
    rw [held_unopened hnames hends, pipes_after_unlink,
      IsBlind.of_leftBy.filterMap_unopened hnames hends, Driver.filterMap_launch fun _ ↦ rfl,
      filterMap_relayJoins fun _ ↦ rfl]
    rfl
  reaped := by
    rw [held_unopened hnames hends]
    exact children_after_unlink removal
  joined := by
    rw [IsBlind.of_joinedBy.filterMap_unopened hnames hends,
      IsBlind.of_relayedBy.filterMap_unopened hnames hends,
      Driver.filterMap_launch fun _ ↦ rfl, filterMap_joinedBy_relayJoins,
      Driver.filterMap_relayedBy_launch, filterMap_relayJoins fun _ ↦ rfl]
    rfl

theorem Driver.Attempt.hasTakenBack {attempt : List Event} {cause : SessionError}
    (hattempt : d.Attempt attempt (.error cause)) : d.HasTakenBack attempt cause := by
  cases hattempt with
  | unmade path cause hnames => exact hasTakenBack_unmade hnames path cause
  | unspawned cause removal hnames => exact hasTakenBack_unspawned hnames.fruitless cause removal
  | unopened ended removal hnames hverdict hends =>
    exact hasTakenBack_unopened hnames.fruitless hends _ ended removal _

/-- What is shown of an attempt in which the shell reads its script. -/
theorem IsBlind.filterMap_opened {α : Type} {f : Event → Option α} (hf : IsBlind f)
    (hnames : Fruitless names) (hrelayed : ∀ stream, f ⟨.startRelay child stream, ()⟩ = none)
    (watch feed : Event) :
    (names ++ (d.launch path child ++ [watch, feed])).filterMap f =
      [⟨.makePipe path, .ok ()⟩,
        ⟨.spawn d.settings.shell [path.octets] d.sinks, .ok child⟩].filterMap f ++
          [watch, feed].filterMap f := by
  rw [List.filterMap_append, List.filterMap_append, hf.filterMap_names hnames,
    Driver.filterMap_launch hrelayed, List.nil_append]

end Outcome

/-! ## Drivers without a session -/

section Vacant

variable {d : Driver} {past : List Event}

def Operation.isStart : Operation → Bool
  | .start | .reload => true
  | _ => false

theorem Driver.enqueue_of_vacant (hvacant : d.session = none) (line : String) :
    d.enqueue line = pure (.error .notRunning, d) := by
  simp [enqueue, observe, recipient, hvacant]

end Vacant

/-! ## Outcomes -/

/-- A driver with a live shell, which gives the next one five milliseconds to read its script. -/
def sampleBusyDriver : Driver where
  settings := ⟨⟨[0x61]⟩, ⟨[0x62]⟩, 1, ⟨5⟩, none⟩
  processId := 7
  sinks := ⟨true, false⟩
  source := some ⟨[0x63]⟩
  session := some ⟨⟨⟨[0x64]⟩, false⟩, ⟨3, ⟨[0x61]⟩, ⟨false, false⟩, none⟩⟩
  closed := false

/-- The pipe of the session to come, of which the number zero is drawn. -/
def sampleNextPipe : Path :=
  ScriptPipe.pathOf ⟨[0x62]⟩ 7 0

end ShellDebugger
