import ShellDebugger.Proofs.Host.PlanRuns
import ShellDebugger.Session.Operation

/-!
# What a driver holds

A driver never holds more than one script pipe and one child that has not been seen to exit, and
between two operations it holds what belongs to its session and nothing else. Each step of a start
or a teardown has one statement about what is held before and after it; they are put together along
the operations. Shells may exit at any moment, also where no call shows it.
-/

namespace ShellDebugger

open Plan

/-- What is held after a trace that began with nothing held. -/
def held (trace : List Event) : Resources :=
  Resources.none.afterAll trace

/-- The child that an event brings into being, if any. -/
def spawnedBy : Event → List ChildId
  | ⟨.spawn .., .ok child⟩ => [child]
  | _ => []

def spawned (trace : List Event) : List ChildId :=
  trace.flatMap spawnedBy

/-- At most one pipe and at most one child is held. -/
def Resources.Single (r : Resources) : Prop :=
  r.pipes.length ≤ 1 ∧ r.children.length ≤ 1

/-- If the event is the removal of a file, it succeeds. -/
def RemovalSucceeds (event : Event) : Prop :=
  match event with
  | ⟨.unlink _, answer⟩ => (answer : Except IoError Unit) = .ok ()
  | _ => True

/-- Removals succeed, and at no time more than one pipe or more than one child is held. -/
def thrift : Terms where
  expects := RemovalSucceeds
  safe past := (held past).Single

@[simp] theorem held_append_one (past : List Event) (event : Event) :
    held (past ++ [event]) = (held past).after event := by
  simp only [held, Resources.afterAll, List.foldl_append, List.foldl_cons, List.foldl_nil]

@[simp] theorem spawned_append (first rest : List Event) :
    spawned (first ++ rest) = spawned first ++ spawned rest :=
  List.flatMap_append

/-! ## Waiting for relays -/

/-- The streams of which relays are started and waited for. -/
def streamsOf (captured : PerStream Bool) : List Stream :=
  (if captured.stdout then [.stdout] else []) ++ if captured.stderr then [.stderr] else []

/-- The relays are waited for one after the other. -/
theorem ensures_joinRelays_of {terms : Terms} {child : Child} {captured : PerStream Bool}
    (left : List Stream → List Event → Prop)
    (hjoin : ∀ {stream relays past}, stream ∈ relays → left relays past →
      Ensures terms (Plan.call (.joinRelay child.id stream)) past fun _ past' ↦
        left (relays.filter (· != stream)) past')
    {past : List Event} (h : left (streamsOf captured) past) :
    Ensures terms (child.joinRelays captured) past fun _ past' ↦ left [] past' := by
  unfold Child.joinRelays
  unfold streamsOf at h
  cases hstdout : captured.stdout <;> cases hstderr : captured.stderr <;>
    simp only [hstdout, hstderr, Bool.false_eq_true, if_true, if_false, ensures_bind_iff,
      ensures_pure_iff] at h ⊢
  · exact h
  · exact hjoin (by simp) h
  · exact hjoin (by simp) h
  · exact (hjoin (by simp) h).mono fun _ _ h ↦ hjoin (by decide) h

/-! ## Properties that idle calls keep -/

/-- An event that neither acquires anything nor gives anything back. -/
def IsIdle (event : Event) : Prop :=
  ∀ r : Resources, r.after event = r

/-- A property of traces that idle events keep, and with which no more than one of each is held. -/
structure Steady (P : List Event → Prop) : Prop where
  keep : ∀ {past event}, P past → IsIdle event → P (past ++ [event])
  single : ∀ {past}, P past → (held past).Single

theorem Steady.ensures_call {P : List Event → Prop} (hP : Steady P) {past : List Event} {c : Call}
    (h : P past) (hidle : ∀ answer, IsIdle ⟨c, answer⟩) :
    Ensures thrift (Plan.call c) past fun _ past ↦ P past := by
  intro answer _
  have hkept := hP.keep h (hidle answer)
  exact ⟨hP.single hkept, hkept⟩

/-- Waiting for relays changes nothing that is held. -/
theorem Steady.ensures_joinRelays {P : List Event → Prop} (hP : Steady P) {past : List Event}
    (h : P past) (child : Child) (captured : PerStream Bool) :
    Ensures thrift (child.joinRelays captured) past fun _ past ↦ P past :=
  ensures_joinRelays_of (fun _ ↦ P) (fun _ h ↦ hP.ensures_call h fun _ _ ↦ rfl) h

/-- A pipe is held and no child. -/
def Piped (path : Path) (past : List Event) : Prop :=
  held past = ⟨[path], []⟩

/-- A pipe is held, and a child that was spawned, unless it was seen to exit. -/
def Holds (path : Path) (child : Child) (past : List Event) : Prop :=
  child.id ∈ spawned past ∧
    (Piped path past ∨ held past = ⟨[path], [child.id]⟩ ∧ child.exit = none)

theorem steady_free : Steady fun past ↦ held past = .none where
  keep h hidle := by rw [held_append_one, hidle, h]
  single h := by
    rw [h]
    exact ⟨Nat.zero_le 1, Nat.zero_le 1⟩

theorem steady_piped (path : Path) : Steady (Piped path) where
  keep h hidle := by
    unfold Piped at h ⊢
    rw [held_append_one, hidle, h]
  single h := by
    rw [h]
    exact ⟨Nat.le_refl 1, Nat.zero_le 1⟩

theorem steady_holds (path : Path) (child : Child) : Steady (Holds path child) where
  keep := by
    rintro past event ⟨hspawned, hheld⟩ hidle
    refine ⟨by rw [spawned_append]; exact List.mem_append_left _ hspawned, ?_⟩
    unfold Piped at hheld ⊢
    rwa [held_append_one, hidle]
  single := by
    rintro past ⟨-, hpiped | ⟨hheld, -⟩⟩
    · exact (steady_piped path).single hpiped
    · rw [hheld]
      exact ⟨Nat.le_refl 1, Nat.le_refl 1⟩

/-! ## A child on its way to its end -/

section Child

variable {past : List Event} {path : Path} {child : Child}

/-- A child whose exit is known is held no more. -/
theorem Holds.piped {exit : Exit} (h : Holds path child past) (hexit : child.exit = some exit) :
    Piped path past := by
  rcases h.2 with hpiped | ⟨-, hnone⟩
  · exact hpiped
  · rw [hexit] at hnone
    cases hnone

/-- When a child is seen to exit, the pipe is left. -/
theorem Holds.reap {event : Event} (h : Holds path child past)
    (hafter : ∀ r : Resources, r.after event = r.reap child.id) :
    Piped path (past ++ [event]) := by
  unfold Piped
  rw [held_append_one, hafter]
  rcases h.2 with hpiped | ⟨hheld, -⟩
  · rw [hpiped]
    rfl
  · simp [hheld, Resources.reap]

theorem Holds.spawned_append (h : Holds path child past) (rest : List Event) :
    child.id ∈ spawned (past ++ rest) := by
  rw [ShellDebugger.spawned_append]
  exact List.mem_append_left _ h.1

theorem ensures_observe (h : Holds path child past) :
    Ensures thrift child.observe past fun child' past ↦
      child'.id = child.id ∧ Holds path child' past := by
  unfold Child.observe
  cases hexit : child.exit with
  | some exit => exact And.intro rfl h
  | none =>
    refine ensures_bind_iff.mpr fun answer _ ↦ ?_
    cases answer with
    | none =>
      have hkept : Holds path child (past ++ [⟨.exitOf child.id, none⟩]) :=
        (steady_holds path child).keep h fun _ ↦ rfl
      refine ⟨(steady_holds path child).single hkept, rfl, hkept.1, ?_⟩
      exact hkept.2.imp id fun hheld ↦ ⟨hheld.1, rfl⟩
    | some exit =>
      have hpiped : Piped path (past ++ [⟨.exitOf child.id, some exit⟩]) := h.reap fun _ ↦ rfl
      exact ⟨(steady_piped path).single hpiped, rfl, h.spawned_append _, .inl hpiped⟩

theorem ensures_kill (h : Holds path child past) :
    Ensures thrift child.kill past fun child' past ↦
      child'.id = child.id ∧ Holds path child' past := by
  unfold Child.kill
  refine (ensures_observe h).bind fun child' past ⟨hid, h⟩ ↦ ?_
  split
  · exact ((steady_holds path child').ensures_call h fun _ _ ↦ rfl).bind fun _ _ h ↦ ⟨hid, h⟩
  · exact ⟨hid, h⟩

theorem ensures_wait (h : Holds path child past) :
    Ensures thrift child.wait past fun _ past ↦ Piped path past := by
  unfold Child.wait
  cases hexit : child.exit with
  | some exit => exact h.piped hexit
  | none =>
    refine ensures_bind_iff.mpr fun answer _ ↦ ?_
    have hpiped : Piped path (past ++ [⟨.awaitExit child.id, answer⟩]) := h.reap fun _ ↦ rfl
    exact ⟨(steady_piped path).single hpiped, hpiped⟩

theorem ensures_waitFor (h : Holds path child past) (limit : Option Duration) :
    Ensures thrift (child.waitFor limit) past fun _ past ↦ Piped path past := by
  unfold Child.waitFor
  cases hexit : child.exit with
  | some exit => exact h.piped hexit
  | none =>
    cases limit with
    | none => exact ensures_wait h
    | some limit =>
      refine ensures_bind_iff.mpr fun answer _ ↦ ?_
      cases answer with
      | some exit =>
        have hpiped : Piped path (past ++ [⟨.awaitExitFor child.id limit, some exit⟩]) :=
          h.reap fun _ ↦ rfl
        exact ⟨(steady_piped path).single hpiped, hpiped⟩
      | none =>
        have hkept : Holds path child (past ++ [⟨.awaitExitFor child.id limit, none⟩]) :=
          (steady_holds path child).keep h fun _ ↦ rfl
        refine ⟨(steady_holds path child).single hkept, ?_⟩
        exact (ensures_kill hkept).bind fun _ _ h ↦ ensures_wait h.2

theorem ensures_joinFeeder (h : Holds path child past) (limit : Option Duration) :
    Ensures thrift (child.joinFeeder limit) past fun child' past ↦
      child'.id = child.id ∧ Holds path child' past := by
  unfold Child.joinFeeder
  cases limit with
  | none =>
    exact ((steady_holds path child).ensures_call h fun _ _ ↦ rfl).bind fun _ _ h ↦ ⟨rfl, h⟩
  | some limit =>
    refine ((steady_holds path child).ensures_call h fun _ _ ↦ rfl).bind fun ended past h ↦ ?_
    split
    · exact ⟨rfl, h⟩
    · refine (ensures_kill h).bind fun child' past ⟨hid, h⟩ ↦ ?_
      exact ((steady_holds path child').ensures_call h fun _ _ ↦ rfl).bind fun _ _ h ↦ ⟨hid, h⟩

end Child

/-! ## Pipes, shells and sessions -/

section Session

variable {past : List Event}

theorem ensures_tryNames (directory : Path) (processId tries : Nat) (last : Path)
    (h : held past = .none) :
    Ensures thrift (ScriptPipe.tryNames directory processId last tries) past fun made past ↦
      match made with
      | .ok pipe => pipe.removed = false ∧ Piped pipe.path past
      | .error _ => held past = .none := by
  induction tries generalizing past last with
  | zero => exact h
  | succ tries ih =>
    unfold ScriptPipe.tryNames
    refine (steady_free.ensures_call h fun _ _ ↦ rfl).bind fun number past h ↦ ?_
    refine ensures_bind_iff.mpr fun answer _ ↦ ?_
    cases answer with
    | ok _ =>
      have hpiped : Piped (ScriptPipe.pathOf directory processId number)
          (past ++ [⟨.makePipe (ScriptPipe.pathOf directory processId number), .ok ()⟩]) := by
        unfold Piped
        rw [held_append_one, h]
        rfl
      exact ⟨(steady_piped _).single hpiped, rfl, hpiped⟩
    | error cause =>
      have hkept : held (past ++
          [⟨.makePipe (ScriptPipe.pathOf directory processId number), .error cause⟩]) = .none :=
        steady_free.keep h fun _ ↦ rfl
      refine ⟨steady_free.single hkept, ?_⟩
      cases cause with
      | refused errno =>
        change Ensures thrift (if errno = .nameTaken then _ else pure _) _ _
        split
        · exact ih _ hkept
        · exact hkept
      | _ => exact hkept

theorem ensures_remove {pipe : ScriptPipe} (hremoved : pipe.removed = false)
    (h : Piped pipe.path past) :
    Ensures thrift pipe.remove past fun _ past ↦ held past = .none := by
  unfold ScriptPipe.remove
  rw [if_neg (by rw [hremoved]; exact Bool.false_ne_true)]
  refine ensures_bind_iff.mpr fun answer hsucceeds ↦ ?_
  have hfree : held (past ++ [⟨.unlink pipe.path, answer⟩]) = .none := by
    rw [held_append_one, h, show answer = .ok () from hsucceeds]
    simp [Resources.after, Resources.none]
  exact ⟨steady_free.single hfree, hfree⟩

theorem ensures_spawn (executable : Path) (arguments : List Bytes) (captured : PerStream Bool)
    {path : Path} (h : Piped path past) :
    Ensures thrift (Child.spawn executable arguments captured) past fun result past ↦
      match result with
      | .ok child => Holds path child past
      | .error _ => Piped path past := by
  refine ensures_bind_iff.mpr fun answer _ ↦ ?_
  cases answer with
  | ok id =>
    have hholds : Holds path ⟨id, executable, captured, none⟩
        (past ++ [⟨.spawn executable arguments captured, .ok id⟩]) := by
      refine ⟨by simp [spawned, spawnedBy], .inr ⟨?_, rfl⟩⟩
      rw [held_append_one, h]
      rfl
    exact ⟨(steady_holds _ _).single hholds, hholds⟩
  | error cause =>
    have hkept : Piped path (past ++ [⟨.spawn executable arguments captured, .error cause⟩]) :=
      (steady_piped path).keep h fun _ ↦ rfl
    exact ⟨(steady_piped path).single hkept, hkept⟩

/-- A child holds what another one holds of which the same is known. -/
theorem Holds.congr {path : Path} {child child' : Child} (h : Holds path child past)
    (hid : child'.id = child.id) (hexit : child'.exit = child.exit) : Holds path child' past := by
  unfold Holds
  rw [hid, hexit]
  exact h

theorem ensures_startRelay (d : Driver) {path : Path} {child : Child} (h : Holds path child past)
    (stream : Stream) :
    Ensures thrift (d.startRelay child stream) past fun child' past ↦ Holds path child' past := by
  have htaken : Holds path (child.take stream).2 past := h.congr rfl rfl
  unfold Driver.startRelay
  split
  · dsimp only
    split
    · exact ((steady_holds _ _).ensures_call htaken fun _ _ ↦ rfl).bind fun _ _ h ↦ h
    · exact htaken
  · exact h

theorem ensures_startRelays (d : Driver) {path : Path} {child : Child}
    (h : Holds path child past) :
    Ensures thrift (d.startRelays child) past fun child' past ↦ Holds path child' past :=
  (ensures_startRelay d h .stdout).bind fun _ _ h ↦ ensures_startRelay d h .stderr

theorem ensures_abandon (d : Driver) {path : Path} {child : Child} (h : Holds path child past) :
    Ensures thrift (d.abandon child) past fun _ past ↦ Piped path past := by
  unfold Driver.abandon Child.closeInput
  refine ((steady_holds path child).ensures_call h fun _ _ ↦ rfl).bind fun _ _ h ↦ ?_
  refine (ensures_kill h).bind fun child' _ ⟨_, h⟩ ↦ ?_
  refine (ensures_wait h).bind fun child' _ h ↦ ?_
  exact (steady_piped path).ensures_joinRelays h child' d.sinks

/-- What belongs to a session is held. -/
def Owned (session : Session) (past : List Event) : Prop :=
  session.pipe.removed = false ∧ Holds session.pipe.path session.child past

/-- Looking at a shell that is to open its script leaves what is held, or shows the exit. -/
theorem ensures_watch {path : Path} {child : Child} (h : Holds path child past) (script : Path)
    (timeout : Duration) :
    Ensures thrift (Plan.call (.watch child.id script timeout)) past fun _ past ↦
      Holds path child past := by
  intro (polls : List Poll) _
  by_cases hshown : polls.any (·.exit.isSome)
  · have hpiped : Piped path (past ++ [⟨.watch child.id script timeout, polls⟩]) :=
      h.reap fun r ↦ by simp only [Resources.after, hshown, if_true]
    exact ⟨(steady_piped path).single hpiped, h.spawned_append _, .inl hpiped⟩
  · have hkept : Holds path child (past ++ [⟨.watch child.id script timeout, polls⟩]) :=
      (steady_holds path child).keep h fun r ↦ by
        simp only [Resources.after, hshown, Bool.false_eq_true, if_false]
    exact ⟨(steady_holds path child).single hkept, hkept⟩

/-- A start that fails gives back all that it has taken. -/
theorem ensures_startSession (d : Driver) (h : held past = .none) :
    Ensures thrift d.startSession past fun result past ↦
      match result with
      | .ok session => Owned session past
      | .error _ => held past = .none := by
  unfold Driver.startSession
  refine (ensures_tryNames _ _ _ _ h).bind fun made past h ↦ ?_
  cases made with
  | error e => exact h
  | ok pipe =>
    obtain ⟨hremoved, h⟩ := h
    refine (ensures_spawn _ _ _ h).bind fun result past h ↦ ?_
    cases result with
    | error e => exact (ensures_remove hremoved h).bind fun _ _ h ↦ h
    | ok child =>
      refine (ensures_startRelays d h).bind fun child past h ↦ ?_
      refine (ensures_watch h _ _).bind fun polls past h ↦ ?_
      split
      · exact ((steady_holds _ _).ensures_call h fun _ _ ↦ rfl).bind fun _ _ h ↦ ⟨hremoved, h⟩
      · refine (ensures_abandon d h).bind fun _ _ h ↦ ?_
        exact (ensures_remove hremoved h).bind fun _ _ h ↦ h

theorem ensures_teardown (d : Driver) {session : Session} (h : Owned session past) :
    Ensures thrift (d.teardown session) past fun _ past ↦ held past = .none := by
  obtain ⟨hremoved, h⟩ := h
  unfold Driver.teardown Child.closeInput
  refine ((steady_holds _ _).ensures_call h fun _ _ ↦ rfl).bind fun _ _ h ↦ ?_
  refine (ensures_joinFeeder h _).bind fun child _ ⟨_, h⟩ ↦ ?_
  refine ((steady_holds _ _).ensures_call h fun _ _ ↦ rfl).bind fun _ _ h ↦ ?_
  refine (ensures_waitFor h _).bind fun child _ h ↦ ?_
  refine ((steady_piped _).ensures_joinRelays h child d.sinks).bind fun _ _ h ↦ ?_
  exact (ensures_remove hremoved h).bind fun _ _ h ↦ h

end Session

end ShellDebugger
