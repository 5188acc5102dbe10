import ShellDebugger.Proofs.Session.Chronicle
import ShellDebugger.Proofs.Session.Teardown

/-!
# Orderly drivers

What every operation of a driver keeps, and so every sequence of operations: each call is permitted
when it is made, and between two operations there is nothing of a session, or a whole one. A shell
is killed right after a look that has not found its exit. The look and the signal are two steps, and
an exit that is published between them does not stop the signal; and the removal of a pipe may be
refused, which stops nothing either.
-/

namespace ShellDebugger

open Plan

/-- Between two operations the driver's session is whole, or nothing is left of any. -/
structure InOrder (limit : Option Duration) (sinks : PerStream Bool) (d : Driver)
    (past : List Event) : Prop where
  limit_eq : d.settings.terminateTimeout = limit
  sinks_eq : d.sinks = sinks
  free : d.session = none → At limit .free past
  whole : ∀ session, d.session = some session → Whole limit sinks session past

namespace InOrder

variable {limit : Option Duration} {sinks : PerStream Bool} {d : Driver} {past : List Event}

/-- A driver without a session after which nothing is left. -/
theorem of_free (hlimit : d.settings.terminateTimeout = limit) (hsinks : d.sinks = sinks)
    (hsession : d.session = none) (h : At limit .free past) : InOrder limit sinks d past where
  limit_eq := hlimit
  sinks_eq := hsinks
  free _ := h
  whole session hsome := by rw [hsession] at hsome; cases hsome

/-- The session of a driver that is in order is whole after other calls as well. -/
theorem of_whole (h : InOrder limit sinks d past) {session : Session}
    (hsession : d.session = some session) {past' : List Event}
    (hwhole : Whole limit sinks session past') : InOrder limit sinks d past' where
  limit_eq := h.limit_eq
  sinks_eq := h.sinks_eq
  free hnone := by rw [hsession] at hnone; cases hnone
  whole session' hsome := by
    rw [hsession] at hsome
    cases hsome
    exact hwhole

theorem ensures_withoutSession (h : InOrder limit sinks d past) :
    Ensures (order limit) d.withoutSession past fun d' past' ↦
      d' = { d with session := none } ∧ At limit .free past' := by
  unfold Driver.withoutSession
  cases hsession : d.session with
  | none => exact And.intro rfl (h.free hsession)
  | some session =>
    have hwhole := h.whole session hsession
    rw [← h.limit_eq, ← h.sinks_eq] at hwhole
    rw [← h.limit_eq]
    exact hwhole.ensures_teardown.bind fun _ _ h ↦ ⟨rfl, h⟩

theorem ensures_start (h : InOrder limit sinks d past) :
    Ensures (order limit) d.start past fun result past' ↦ InOrder limit sinks result.2 past' := by
  unfold Driver.start
  split
  · exact h
  · refine h.ensures_withoutSession.bind fun d' past ⟨hd', hfree⟩ ↦ ?_
    subst hd'
    refine (hfree.ensures_startSession _).bind fun result past hstarted ↦ ?_
    cases result with
    | error e => exact .of_free h.limit_eq h.sinks_eq rfl hstarted
    | ok session =>
      refine ⟨h.limit_eq, h.sinks_eq, nofun, ?_⟩
      rintro session' ⟨⟩
      exact h.sinks_eq ▸ hstarted

theorem ensures_close (h : InOrder limit sinks d past) :
    Ensures (order limit) d.close past fun d' past' ↦ InOrder limit sinks d' past' := by
  have hclosed : InOrder limit sinks { d with closed := true } past :=
    ⟨h.limit_eq, h.sinks_eq, h.free, h.whole⟩
  refine hclosed.ensures_withoutSession.mono fun d' past' ⟨hd', hfree⟩ ↦ ?_
  subst hd'
  exact .of_free h.limit_eq h.sinks_eq rfl hfree

theorem ensures_checkSource (h : InOrder limit sinks d past) (path : Path) :
    Ensures (order limit) (Driver.checkSource path) past fun _ past' ↦
      InOrder limit sinks d past' := by
  have hinspect : Ensures (order limit) (Plan.call (.inspect path)) past fun _ past' ↦
      InOrder limit sinks d past' := by
    cases hsession : d.session with
    | none =>
      have hpermits : Stage.Permits .free limit past (.inspect path) := trivial
      refine ((h.free hsession).ensures_idle hpermits fun _ ↦ rfl).mono fun _ _ hfree ↦ ?_
      exact .of_free h.limit_eq h.sinks_eq hsession hfree
    | some session =>
      obtain ⟨hremoved, hat⟩ := h.whole session hsession
      have hpermits : ((Dismantling.ofSession session sinks).knowing session.child.exit).Permits
        limit past (.inspect path) := trivial
      refine (hat.ensures_idle hpermits fun _ ↦ rfl).mono fun _ _ hat ↦ ?_
      exact h.of_whole hsession ⟨hremoved, hat⟩
  unfold Driver.checkSource
  refine hinspect.bind fun answer past h ↦ ?_
  split
  · exact h
  · exact h
  · split <;> exact h

theorem ensures_load (h : InOrder limit sinks d past) (path : Path) :
    Ensures (order limit) (d.load path) past fun result past' ↦
      InOrder limit sinks result.2 past' := by
  unfold Driver.load
  split
  · exact h
  · refine (h.ensures_checkSource path).bind fun checked past h ↦ ?_
    cases checked with
    | ok _ => exact ⟨h.limit_eq, h.sinks_eq, h.free, h.whole⟩
    | error e => exact h

theorem ensures_observe (h : InOrder limit sinks d past) :
    Ensures (order limit) d.observe past fun d' past' ↦ InOrder limit sinks d' past' := by
  unfold Driver.observe
  cases hsession : d.session with
  | none => exact h
  | some session =>
    obtain ⟨hremoved, hat⟩ := h.whole session hsession
    have hfollows := follows_knowing (Dismantling.ofSession session sinks)
    refine (At.ensures_observe hfollows hat rfl).bind fun child past ⟨hid, hat, _⟩ ↦ ?_
    refine ⟨h.limit_eq, h.sinks_eq, nofun, ?_⟩
    rintro session' ⟨⟩
    refine ⟨hremoved, ?_⟩
    rw [Dismantling.ofSession, hid]
    exact hat

theorem ensures_enqueue (h : InOrder limit sinks d past) (line : String) :
    Ensures (order limit) (d.enqueue line) past fun result past' ↦
      InOrder limit sinks result.2 past' := by
  unfold Driver.enqueue
  refine h.ensures_observe.bind fun d' past h ↦ ?_
  cases hrecipient : d'.recipient with
  | error e => exact h
  | ok child =>
    obtain ⟨session, hsession, rfl⟩ : ∃ session, d'.session = some session ∧
        child = session.child.id := by
      unfold Driver.recipient at hrecipient
      split at hrecipient
      · cases hrecipient
      · rename_i session hsession
        split at hrecipient <;> cases hrecipient
        exact ⟨session, hsession, rfl⟩
    obtain ⟨hremoved, hat⟩ := h.whole session hsession
    have hsend : ((Dismantling.ofSession session sinks).knowing session.child.exit).Permits
        limit past (.send session.child.id line) := ⟨rfl, rfl⟩
    refine (hat.ensures_idle hsend fun _ ↦ rfl).bind fun _ past hat ↦ ?_
    exact h.of_whole hsession ⟨hremoved, hat⟩

theorem ensures_submit (h : InOrder limit sinks d past) (words : List String) :
    Ensures (order limit) (d.submit words) past fun result past' ↦
      InOrder limit sinks result.2 past' := by
  unfold Driver.submit
  split
  · exact h
  · exact h.ensures_enqueue _

theorem ensures_status (h : InOrder limit sinks d past) :
    Ensures (order limit) d.status past fun result past' ↦
      InOrder limit sinks result.2 past' := by
  unfold Driver.status
  split
  · exact h
  · exact h.ensures_observe.bind fun _ _ h ↦ h

theorem ensures_perform (h : InOrder limit sinks d past) (operation : Operation) :
    Ensures (order limit) (d.perform operation) past fun result past' ↦
      InOrder limit sinks result.2 past' := by
  cases operation with
  | load path => exact (h.ensures_load path).bind fun _ _ h ↦ h
  | start | reload => exact h.ensures_start.bind fun _ _ h ↦ h
  | submit words => exact (h.ensures_submit words).bind fun _ _ h ↦ h
  | submitLine line => exact (h.ensures_enqueue _).bind fun _ _ h ↦ h
  | status => exact h.ensures_status.bind fun _ _ h ↦ h
  | close => exact h.ensures_close.bind fun _ _ h ↦ h

theorem ensures_performAll (h : InOrder limit sinks d past) (operations : List Operation) :
    Ensures (order limit) (d.performAll operations) past fun result past' ↦
      InOrder limit sinks result.2 past' := by
  induction operations generalizing d past with
  | nil => exact h
  | cons operation rest ih =>
    refine (h.ensures_perform operation).bind fun _ _ h ↦ ?_
    exact (ih h).bind fun _ _ h ↦ h

end InOrder

/-! ## Looks and signals -/

/-- The call before a signal is a look at the shell. -/
theorem Orderly.justLooked {limit : Option Duration} {trace before after : List Event}
    {child : ChildId} (h : Orderly limit trace)
    (htrace : trace = before ++ ⟨.kill child, ()⟩ :: after) : Stage.JustLooked before child := by
  have hpermits := h before _ after htrace
  cases hstage : Stage.after before with
  | free =>
    rw [hstage] at hpermits
    exact hpermits.elim
  | starting pipe child' relays =>
    rw [hstage] at hpermits
    exact hpermits.2
  | session left =>
    rw [hstage] at hpermits
    obtain ⟨-, -, -, time, -, first, wait, rfl, -⟩ := hpermits
    exact ⟨first ++ [wait], by rw [List.append_assoc]; rfl⟩

/-- The call before each signal is a look at the shell, whose exit has not been published then: an
exit that has been published when the signal is sent was published after that look. -/
def Chronicle.SignalsLiving (h : Chronicle) : Prop :=
  ∀ (before : Chronicle) (child : ChildId) (after : Chronicle),
    h = before ++ .answered ⟨.kill child, ()⟩ :: after →
      ∃ first between : Chronicle, before = first ++ .answered ⟨.exitOf child, none⟩ :: between ∧
        between.calls = [] ∧ first.published child = none ∧
          ∀ exit, before.published child = some exit → .published child exit ∈ between

theorem Chronicle.IsCoherent.signalsLiving {limit : Option Duration} {h : Chronicle}
    (hcoherent : h.IsCoherent) (horderly : Orderly limit h.calls) : h.SignalsLiving := by
  rintro before child after rfl
  obtain ⟨looked, hlooked⟩ := horderly.justLooked (Chronicle.calls_append before _)
  obtain ⟨first, rest, rfl, -, hrest⟩ := Chronicle.exists_append_of_calls hlooked
  obtain ⟨silent, between, rfl, hsilent, hbetween⟩ := Chronicle.calls_eq_singleton hrest
  have hlook : none = (first ++ silent).published child :=
    hcoherent (first ++ silent) child none
      (between ++ .answered ⟨.kill child, ()⟩ :: after) (by simp)
  refine ⟨first ++ silent, between, (List.append_assoc ..).symm, hbetween, hlook.symm, ?_⟩
  intro exit hexit
  rw [← List.append_assoc, Chronicle.published_append, ← hlook] at hexit
  change between.foldl (Chronicle.Entry.learn child) none = some exit at hexit
  exact (Chronicle.known_or_mem_of_foldl_learn hexit).resolve_left nofun

/-- However far a sequence of operations of a new driver gets, whatever the system answers and
whenever the exits of shells are published: each call is permitted when it is made, so that sessions
are taken apart in order, one before the next; a shell is killed only if its exit was not published
when it was looked at right before that; and if the operations end and the driver has no session,
then the last one has been taken apart to its end. -/
theorem performAll_orderly (settings : SessionSettings) (processId : Nat) (sinks : PerStream Bool)
    (operations : List Operation) (h : Chronicle)
    (hbegins : Begins ((Driver.ofSettings settings processId sinks).performAll operations) h.calls)
    (hcoherent : h.IsCoherent) :
    Orderly settings.terminateTimeout h.calls ∧
      h.SignalsLiving ∧
      ∀ answers d, Runs ((Driver.ofSettings settings processId sinks).performAll operations) h.calls
        (answers, d) → d.session = none → Stage.after h.calls = .free := by
  have hstart : InOrder settings.terminateTimeout sinks
      (Driver.ofSettings settings processId sinks) [] := .of_free rfl rfl rfl at_nil
  have hensures := hstart.ensures_performAll operations
  have horderly : Orderly settings.terminateTimeout h.calls :=
    hensures.safe_of_begins hbegins (fun _ _ ↦ trivial) at_nil.orderly
  refine ⟨horderly, hcoherent.signalsLiving horderly, ?_⟩
  intro answers d hrun hnone
  exact ((hensures.of_runs_nil hrun fun _ _ ↦ trivial).free hnone).stage_eq

/-! A shell that reads its script and then does not exit on its own, and that is killed when it has
outlasted the limit for waiting. -/

/-- The answers of a system on which shells do not exit before a limit. -/
def answerStubbornly : (c : Call) → c.Answer
  | .awaitExitFor .. => (none : Option Exit)
  | c => (PlainSystem.ofShell true).answer c

theorem isCoherent_ofTrace_stubborn {α : Type} (plan : Plan α) :
    (Chronicle.ofTrace (plan.traceWith (fun c _ ↦ ((), answerStubbornly c)) ())).IsCoherent :=
  Chronicle.isCoherent_ofTrace fun child _ hevent ↦
    (answer_of_mem_traceWith hevent).trans (show answerStubbornly (.exitOf child) = none from rfl)

/-- Settings of a driver that waits five milliseconds. -/
def sampleSettings : SessionSettings :=
  ⟨⟨[0x61]⟩, ⟨[0x62]⟩, 1, ⟨0⟩, some ⟨5⟩⟩

/-- Two sessions, one after the other, of which standard output is captured. -/
def samplePlan : Plan (List Operation.Answer × Driver) :=
  (Driver.ofSettings sampleSettings 0 ⟨true, false⟩).performAll [.start, .reload, .close]

def sampleTrace : List Event :=
  samplePlan.traceWith (fun c _ ↦ ((), answerStubbornly c)) ()

/-- Both shells are killed, and nothing is left of the sessions. -/
theorem performAll_orderly_stubborn_shell :
    Orderly (some ⟨5⟩) sampleTrace ∧ Stage.after sampleTrace = .free ∧
      (sampleTrace.filter fun event ↦ event.call matches .kill _).length = 2 := by
  have hrun : Runs samplePlan sampleTrace _ := runs_runWith _ samplePlan ()
  have hsession : (samplePlan.runWith (fun c _ ↦ ((), answerStubbornly c)) ()).1.2.session =
      none := rfl
  have hcalls : (Chronicle.ofTrace sampleTrace).calls = sampleTrace := Chronicle.calls_ofTrace _
  have hcoherent : (Chronicle.ofTrace sampleTrace).IsCoherent := isCoherent_ofTrace_stubborn _
  have hbegins : Begins samplePlan (Chronicle.ofTrace sampleTrace).calls := by
    rw [hcalls]
    exact hrun.begins
  obtain ⟨horderly, -, hfree⟩ := performAll_orderly sampleSettings 0 ⟨true, false⟩
    [.start, .reload, .close] (Chronicle.ofTrace sampleTrace) hbegins hcoherent
  rw [hcalls] at horderly hfree
  generalize (Plan.runWith _ samplePlan ()).1 = result at hrun hsession
  exact ⟨horderly, hfree result.1 result.2 hrun hsession, rfl⟩

/-! A shell that exits on its own between the look at it and the signal, and that has given its pipe
another name before. -/

def isSignal (event : Event) : Bool :=
  event.call matches .kill _

/-- No shell is killed whose exit has been published. -/
def Chronicle.SparesExited (h : Chronicle) : Prop :=
  ∀ (before : Chronicle) (child : ChildId) (after : Chronicle),
    h = before ++ .answered ⟨.kill child, ()⟩ :: after → before.published child = none

/-- No pipe is left where another one is made. -/
def ClearsPipes (trace : List Event) : Prop :=
  ∀ (before : List Event) (path : Path) (after : List Event),
    trace = before ++ ⟨.makePipe path, (.ok () : Except IoError Unit)⟩ :: after →
      (held before).pipes = []

/-- The answers of a system on which numbers and children are new each time and shells rename their
pipes, which are then not found any more. -/
def answerRenamed (c : Call) (next : Nat) : Nat × c.Answer :=
  match c with
  | .drawNumber => (next + 1, UInt64.ofNat next)
  | .spawn .. => (next + 1, (.ok next : Except IoError ChildId))
  | .unlink _ => (next, (.error (.refused .noEntry) : Except IoError Unit))
  | c => (next, answerStubbornly c)

def sampleRestart : Plan (List Operation.Answer × Driver) :=
  (Driver.ofSettings sampleSettings 0 ⟨true, false⟩).performAll [.start, .reload]

def sampleRestartTrace : List Event :=
  sampleRestart.traceWith answerRenamed 0

/-- What is seen before the first shell is killed. -/
def sampleBeforeSignal : List Event :=
  sampleRestartTrace.takeWhile (!isSignal ·)

/-- The signal to the first shell, and what is seen after it. -/
def sampleFromSignal : List Event :=
  sampleRestartTrace.dropWhile (!isSignal ·)

/-- The first shell exits right before it is killed. -/
def sampleLateExit : Chronicle :=
  Chronicle.ofTrace sampleBeforeSignal ++
    .published 1 (.code 0) :: Chronicle.ofTrace sampleFromSignal

theorem calls_sampleLateExit : sampleLateExit.calls = sampleRestartTrace := by
  have hcalls : Chronicle.calls (.published 1 (.code 0) :: Chronicle.ofTrace sampleFromSignal) =
      sampleFromSignal := Chronicle.calls_ofTrace sampleFromSignal
  rw [sampleLateExit, Chronicle.calls_append, Chronicle.calls_ofTrace, hcalls]
  exact List.takeWhile_append_dropWhile

theorem isCoherent_sampleLateExit : sampleLateExit.IsCoherent := by
  refine (Chronicle.isCoherent_ofTrace fun child answer hlook ↦ ?_).append
    fun child answer hlook ↦ ?_
  · obtain ⟨_, hanswer⟩ := exists_answer_of_mem_traceWith (List.takeWhile_subset _ hlook)
    exact hanswer
  · -- No shell is looked at any more.
    have hlooks : sampleFromSignal.all (fun event ↦ !(event.call matches .exitOf _)) = true := rfl
    cases List.all_eq_true.mp hlooks _ hlook

/-- An exit that is published between the look and the signal does not spare the shell, and where a
pipe could not be removed the next one is made all the same. -/
theorem not_performAll_spares_exited_and_clears_pipes :
    Begins sampleRestart sampleLateExit.calls ∧ sampleLateExit.IsCoherent ∧
      ¬sampleLateExit.SparesExited ∧ ¬ClearsPipes sampleLateExit.calls := by
  rw [calls_sampleLateExit]
  refine ⟨(runs_runWith answerRenamed sampleRestart 0).begins, isCoherent_sampleLateExit, ?_, ?_⟩
  · intro hspares
    cases hspares (Chronicle.ofTrace sampleBeforeSignal ++ [.published 1 (.code 0)]) 1
      (Chronicle.ofTrace sampleFromSignal.tail) rfl
  · intro hclears
    cases hclears (sampleRestartTrace.take 16) _ (sampleRestartTrace.drop 17) rfl

end ShellDebugger
