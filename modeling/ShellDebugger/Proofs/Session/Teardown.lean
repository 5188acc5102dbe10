import ShellDebugger.Proofs.Session.Chronicle
import ShellDebugger.Proofs.Session.Stages
import ShellDebugger.Session.Operation

/-!
# The order of a teardown

Every trace of a driver is orderly: each call is permitted at the stage that the calls before it
have led to. Each step of a start or a teardown has one statement about the stage before and after
it; they are put together along the operations.
-/

namespace ShellDebugger

open Plan

section Child

variable {limit : Option Duration} {past : List Event} {child : Child}

/-! ## A child on its way to its end -/

/-- Stages of a child, one for each thing that may be known of its exit, between which looking at
the child and killing it lead. -/
structure Follows (id : ChildId) (stages : Option Exit → Stage) : Prop where
  look : ∀ answer : Option Exit, (stages none).next ⟨.exitOf id, answer⟩ = stages answer
  kill : ∀ known, (stages known).next ⟨.kill id, ()⟩ = stages known
  await : ∀ exit : Exit, (stages none).next ⟨.awaitExit id, exit⟩ = stages (some exit)

/-- The stage of a session, given what is known of the exit of its shell. -/
def Dismantling.knowing (left : Dismantling) (exit : Option Exit) : Stage :=
  .session { left with exitSeen := exit.isSome }

theorem follows_knowing (left : Dismantling) : Follows left.child left.knowing where
  look answer := by cases answer <;> rfl
  kill _ := rfl
  await _ := rfl

theorem follows_starting (pipe : Path) (id : ChildId) (relays : List Stream) :
    Follows id fun _ ↦ .starting pipe (some id) relays where
  look _ := rfl
  kill _ := rfl
  await _ := rfl

variable {stages : Option Exit → Stage}

theorem At.ensures_observe (hfollows : Follows child.id stages)
    (h : At limit (stages child.exit) past)
    (hlook : (stages none).Permits limit past (.exitOf child.id)) :
    Ensures (order limit) child.observe past fun child' past' ↦
      child'.id = child.id ∧ At limit (stages child'.exit) past' ∧
        (child'.exit = none → past' = past ++ [⟨.exitOf child.id, none⟩]) := by
  unfold Child.observe
  cases hexit : child.exit with
  | some exit => exact ⟨rfl, h, fun hnone ↦ absurd (hexit.symm.trans hnone) nofun⟩
  | none =>
    rw [hexit] at h
    refine (h.ensures_call hlook).bind fun answer past' ⟨hpast, h⟩ ↦ ⟨rfl, ?_, ?_⟩
    · exact hfollows.look answer ▸ h
    · intro hnone
      rw [hpast, show answer = none from hnone]

theorem At.ensures_kill (hfollows : Follows child.id stages)
    (h : At limit (stages child.exit) past)
    (hlook : (stages none).Permits limit past (.exitOf child.id))
    (hkill : (stages none).Permits limit (past ++ [⟨.exitOf child.id, none⟩]) (.kill child.id)) :
    Ensures (order limit) child.kill past fun child' past' ↦
      child'.id = child.id ∧ At limit (stages child'.exit) past' := by
  unfold Child.kill
  refine (h.ensures_observe hfollows hlook).bind fun child' past' ⟨hid, h, hlooked⟩ ↦ ?_
  cases hexit : child'.exit with
  | some exit => exact ⟨hid, h⟩
  | none =>
    rw [hexit] at h
    rw [← hlooked hexit, ← hid] at hkill
    refine (h.ensures_call hkill).bind fun _ _ ⟨_, h⟩ ↦ ⟨hid, ?_⟩
    rw [hexit, hid] at *
    exact hfollows.kill none ▸ h

theorem At.ensures_wait (hfollows : Follows child.id stages)
    (h : At limit (stages child.exit) past)
    (hawait : child.exit = none → (stages none).Permits limit past (.awaitExit child.id)) :
    Ensures (order limit) child.wait past fun child' past' ↦
      child'.id = child.id ∧ child'.exit.isSome ∧ At limit (stages child'.exit) past' := by
  unfold Child.wait
  cases hexit : child.exit with
  | some exit => exact ⟨rfl, by rw [hexit]; rfl, h⟩
  | none =>
    rw [hexit] at h
    refine (h.ensures_call (hawait hexit)).bind fun answer _ ⟨_, h⟩ ↦ ⟨rfl, rfl, ?_⟩
    exact hfollows.await answer ▸ h

/-! ## A session on its way to its end -/

variable {left : Dismantling}

/-- A child that has outlasted a wait may be killed. -/
theorem At.ensures_kill_outlasted {time : Duration} {wait : Event}
    (h : At (some time) (left.knowing child.exit) (past ++ [wait]))
    (hwait : wait = ⟨.joinFeederFor child.id time, false⟩ ∨
      wait = ⟨.awaitExitFor child.id time, none⟩)
    (hchild : left.child = child.id) (hdropped : left.senderDropped = true) :
    Ensures (order (some time)) child.kill (past ++ [wait]) fun child' past' ↦
      child'.id = child.id ∧ At (some time) (left.knowing child'.exit) past' := by
  have houtlasted : Stage.JustOutlasted (past ++ [wait] ++ [⟨.exitOf child.id, none⟩]) child.id
      time := ⟨past, wait, List.append_assoc .., hwait⟩
  have hlook : (left.knowing none).Permits (some time) (past ++ [wait]) (.exitOf child.id) :=
    hchild.symm
  have hkill : (left.knowing none).Permits (some time)
      (past ++ [wait] ++ [⟨.exitOf child.id, none⟩]) (.kill child.id) :=
    ⟨hchild.symm, hdropped, rfl, time, rfl, houtlasted⟩
  exact h.ensures_kill (hchild ▸ follows_knowing left) hlook hkill

theorem At.ensures_joinFeeder (h : At limit (left.knowing child.exit) past)
    (hchild : left.child = child.id) (hdropped : left.senderDropped = true)
    (hrunning : left.feederEnded = false) :
    Ensures (order limit) (child.joinFeeder limit) past fun child' past' ↦
      child'.id = child.id ∧
        At limit (Dismantling.knowing { left with feederEnded := true } child'.exit) past' := by
  unfold Child.joinFeeder
  cases limit with
  | none =>
    have hjoin : (left.knowing child.exit).Permits none past (.joinFeeder child.id) :=
      ⟨hchild.symm, hdropped, hrunning⟩
    exact (h.ensures_call hjoin).bind fun _ _ ⟨_, h⟩ ↦ ⟨rfl, h⟩
  | some time =>
    have hjoinFor : (left.knowing child.exit).Permits (some time) past
        (.joinFeederFor child.id time) := ⟨hchild.symm, hdropped, hrunning, rfl⟩
    refine (h.ensures_call hjoinFor).bind fun ended past' ⟨hpast, h⟩ ↦ ?_
    cases ended with
    | true => exact ⟨rfl, h⟩
    | false =>
      subst hpast
      refine (h.ensures_kill_outlasted (.inl rfl) hchild hdropped).bind
        fun child' past' ⟨hid, h⟩ ↦ ?_
      have hjoin : (left.knowing child'.exit).Permits (some time) past' (.joinFeeder child'.id) :=
        ⟨hid.trans hchild.symm, hdropped, hrunning⟩
      exact (h.ensures_call hjoin).bind fun _ _ ⟨_, h⟩ ↦ ⟨hid, h⟩

/-- A session whose shell is to end on its own. -/
structure Dismantling.IsAwaiting (left : Dismantling) (id : ChildId) : Prop where
  child : left.child = id
  senderDropped : left.senderDropped = true
  feederEnded : left.feederEnded = true
  inputClosed : left.inputClosed = true

theorem At.ensures_waitFor (h : At limit (left.knowing child.exit) past)
    (hawaiting : left.IsAwaiting child.id) :
    Ensures (order limit) (child.waitFor limit) past fun child' past' ↦
      child'.id = child.id ∧ child'.exit.isSome ∧ At limit (left.knowing child'.exit) past' := by
  obtain ⟨hchild, hdropped, hended, hclosed⟩ := hawaiting
  have hfollows : Follows child.id left.knowing := hchild ▸ follows_knowing left
  have hawait (past : List Event) : (left.knowing none).Permits limit past (.awaitExit child.id) :=
    ⟨hchild.symm, hdropped, hended, hclosed, rfl⟩
  unfold Child.waitFor
  cases hexit : child.exit with
  | some exit =>
    exact ⟨rfl, by rw [hexit]; rfl, h⟩
  | none =>
    cases limit with
    | none => exact h.ensures_wait hfollows fun _ ↦ hawait past
    | some time =>
      rw [hexit] at h
      have hawaitFor : (left.knowing none).Permits (some time) past
          (.awaitExitFor child.id time) := ⟨hchild.symm, hdropped, hended, hclosed, rfl, rfl⟩
      refine (h.ensures_call hawaitFor).bind fun answer past' ⟨hpast, h⟩ ↦ ?_
      cases answer with
      | some exit => exact ⟨rfl, rfl, h⟩
      | none =>
        subst hpast
        have hknown : At (some time) (left.knowing child.exit)
            (past ++ [⟨.awaitExitFor child.id time, none⟩]) := by rw [hexit]; exact h
        refine (hknown.ensures_kill_outlasted (.inr rfl) hchild hdropped).bind
          fun child' past' ⟨hid, h⟩ ↦ ?_
        refine (h.ensures_wait (hid ▸ hfollows) fun _ ↦ hid ▸ hawait past').mono ?_
        rintro child'' past'' ⟨hid', hsome, h⟩
        exact ⟨hid'.trans hid, hsome, h⟩

theorem At.ensures_joinRelays (h : At limit (left.knowing child.exit) past)
    (hawaiting : left.IsAwaiting child.id) (hexit : child.exit.isSome)
    {captured : PerStream Bool} (hrelays : left.relays = streamsOf captured) :
    Ensures (order limit) (child.joinRelays captured) past fun _ past' ↦
      At limit (Dismantling.knowing { left with relays := [] } child.exit) past' := by
  obtain ⟨hchild, hdropped, hended, hclosed⟩ := hawaiting
  let leaving (relays : List Stream) : List Event → Prop :=
    At limit (Dismantling.knowing { left with relays } child.exit)
  have hstart : leaving (streamsOf captured) past := hrelays ▸ h
  refine ensures_joinRelays_of leaving (fun {stream relays past} hmem h ↦ ?_) hstart
  have hpermits : (Dismantling.knowing { left with relays } child.exit).Permits limit past
      (.joinRelay child.id stream) := ⟨hchild.symm, hdropped, hended, hclosed, hexit, hmem⟩
  exact (At.ensures_call h hpermits).mono fun _ _ ⟨_, h⟩ ↦ h

end Child

/-! ## Starting a session -/

section Start

variable {limit : Option Duration} {past : List Event}

theorem At.ensures_tryNames (directory : Path) (processId tries : Nat) (last : Path)
    (h : At limit .free past) :
    Ensures (order limit) (ScriptPipe.tryNames directory processId last tries) past
      fun made past' ↦
        match made with
        | .ok pipe => pipe.removed = false ∧ At limit (.starting pipe.path none []) past'
        | .error _ => At limit .free past' := by
  induction tries generalizing past last with
  | zero => exact h
  | succ tries ih =>
    unfold ScriptPipe.tryNames
    have hdraw : Stage.Permits .free limit past .drawNumber := trivial
    refine (h.ensures_idle hdraw fun _ ↦ rfl).bind fun number past h ↦ ?_
    have hmake : Stage.Permits .free limit past
        (.makePipe (ScriptPipe.pathOf directory processId number)) := trivial
    refine (h.ensures_call hmake).bind fun answer past' hmade ↦ ?_
    obtain ⟨-, h⟩ := hmade
    cases answer with
    | ok _ => exact ⟨rfl, h⟩
    | error cause =>
      cases cause with
      | refused errno =>
        change Ensures (order limit) (if errno = .nameTaken then _ else pure _) _ _
        split
        · exact ih _ h
        · exact h
      | _ => exact h

theorem At.ensures_remove {pipe : ScriptPipe} (hremoved : pipe.removed = false)
    {child : Option ChildId} {relays : List Stream}
    (h : At limit (.starting pipe.path child relays) past) :
    Ensures (order limit) pipe.remove past fun _ past' ↦ At limit .free past' := by
  unfold ScriptPipe.remove
  rw [if_neg (by rw [hremoved]; exact Bool.false_ne_true)]
  have hunlink : Stage.Permits (.starting pipe.path child relays) limit past
      (.unlink pipe.path) := rfl
  exact (h.ensures_call hunlink).bind fun _ _ ⟨_, h⟩ ↦ h

theorem At.ensures_spawn (executable : Path) (arguments : List Bytes) (captured : PerStream Bool)
    {path : Path} (h : At limit (.starting path none []) past) :
    Ensures (order limit) (Child.spawn executable arguments captured) past fun result past' ↦
      match result with
      | .ok child => child.streams = captured ∧ child.exit = none ∧
          At limit (.starting path (some child.id) []) past'
      | .error _ => At limit (.starting path none []) past' := by
  have hspawn : Stage.Permits (.starting path none []) limit past
      (.spawn executable arguments captured) := rfl
  refine (h.ensures_call hspawn).bind fun answer past' ⟨_, h⟩ ↦ ?_
  cases answer with
  | ok id => exact ⟨rfl, rfl, h⟩
  | error cause => exact h

theorem At.ensures_startRelay (d : Driver) {path : Path} {child : Child} {relays : List Stream}
    (h : At limit (.starting path (some child.id) relays) past) (stream : Stream)
    (hcaptured : child.streams.get stream = d.sinks.get stream) :
    Ensures (order limit) (d.startRelay child stream) past fun child' past' ↦
      child'.id = child.id ∧ child'.exit = child.exit ∧
        (∀ other, other ≠ stream → child'.streams.get other = child.streams.get other) ∧
        At limit (.starting path (some child'.id)
          (relays ++ if d.sinks.get stream then [stream] else [])) past' := by
  have hother (other : Stream) (hne : other ≠ stream) :
      (child.take stream).2.streams.get other = child.streams.get other := by
    cases stream <;> cases other <;> first | rfl | exact absurd rfl hne
  unfold Driver.startRelay
  cases hsink : d.sinks.get stream with
  | true =>
    have htaken : (child.take stream).1 = true := hcaptured.trans hsink
    have hrelay : Stage.Permits (.starting path (some child.id) relays) limit past
        (.startRelay child.id stream) := rfl
    simp only [if_true, htaken]
    exact (h.ensures_call hrelay).bind fun _ _ ⟨_, h⟩ ↦ ⟨rfl, rfl, hother, h⟩
  | false =>
    refine ⟨rfl, rfl, fun _ _ ↦ rfl, ?_⟩
    simp only [Bool.false_eq_true, if_false, List.append_nil]
    exact h

theorem At.ensures_startRelays (d : Driver) {path : Path} {child : Child}
    (h : At limit (.starting path (some child.id) []) past) (hcaptured : child.streams = d.sinks) :
    Ensures (order limit) (d.startRelays child) past fun child' past' ↦
      child'.exit = child.exit ∧
        At limit (.starting path (some child'.id) (streamsOf d.sinks)) past' := by
  have hstdout : child.streams.get .stdout = d.sinks.get .stdout := by rw [hcaptured]
  refine (h.ensures_startRelay d .stdout hstdout).bind fun child' _ ⟨_, hexit, hother, h⟩ ↦ ?_
  have hstderr : child'.streams.get .stderr = d.sinks.get .stderr := by
    rw [hother .stderr nofun, hcaptured]
  refine (h.ensures_startRelay d .stderr hstderr).mono fun child'' _ ⟨_, hexit', _, h⟩ ↦ ?_
  exact ⟨hexit'.trans hexit, h⟩

theorem At.ensures_abandon (d : Driver) {path : Path} {child : Child} {relays : List Stream}
    (h : At limit (.starting path (some child.id) relays) past) :
    Ensures (order limit) (d.abandon child) past fun _ past' ↦
      At limit (.starting path (some child.id) relays) past' := by
  let stage := Stage.starting path (some child.id) relays
  have hfollows := follows_starting path child.id relays
  have hclose : stage.Permits limit past (.closeInput child.id) := rfl
  unfold Driver.abandon Child.closeInput
  refine (h.ensures_idle hclose fun _ ↦ rfl).bind fun _ past h ↦ ?_
  have hlook : stage.Permits limit past (.exitOf child.id) := rfl
  have hkill : stage.Permits limit (past ++ [⟨.exitOf child.id, none⟩]) (.kill child.id) :=
    ⟨rfl, past, rfl⟩
  refine (At.ensures_kill hfollows h hlook hkill).bind
    fun killed past ⟨hid, h⟩ ↦ ?_
  have hawait : stage.Permits limit past (.awaitExit killed.id) := congrArg some hid.symm
  have hfollows' : Follows killed.id fun _ ↦ stage := by rw [hid]; exact hfollows
  refine (At.ensures_wait hfollows' h fun _ ↦ hawait).bind fun waited past ⟨hid', _, h⟩ ↦ ?_
  refine ensures_joinRelays_of (fun _ ↦ At limit stage) (fun {stream relays past} _ h ↦ ?_) h
  have hpermits : stage.Permits limit past (.joinRelay waited.id stream) :=
    congrArg some (hid'.trans hid).symm
  exact h.ensures_idle hpermits fun _ ↦ rfl

/-- A session of which nothing has been taken apart. -/
def Dismantling.ofSession (session : Session) (sinks : PerStream Bool) : Dismantling :=
  ⟨session.pipe.path, session.child.id, streamsOf sinks, false, false, false, false⟩

/-- A trace after which a session is whole. -/
def Whole (limit : Option Duration) (sinks : PerStream Bool) (session : Session)
    (past : List Event) : Prop :=
  session.pipe.removed = false ∧
    At limit ((Dismantling.ofSession session sinks).knowing session.child.exit) past

theorem At.ensures_startSession (d : Driver) (h : At limit .free past) :
    Ensures (order limit) d.startSession past fun result past' ↦
      match result with
      | .ok session => Whole limit d.sinks session past'
      | .error _ => At limit .free past' := by
  unfold Driver.startSession
  refine (h.ensures_tryNames _ _ _ _).bind fun made past h ↦ ?_
  cases made with
  | error e => exact h
  | ok pipe =>
    obtain ⟨hremoved, h⟩ := h
    refine (h.ensures_spawn _ _ _).bind fun result past h ↦ ?_
    cases result with
    | error e => exact (At.ensures_remove hremoved h).bind fun _ _ h ↦ h
    | ok child =>
      obtain ⟨hstreams, hexit, h⟩ := h
      refine (h.ensures_startRelays d hstreams).bind fun child past ⟨hexit', h⟩ ↦ ?_
      let stage := Stage.starting pipe.path (some child.id) (streamsOf d.sinks)
      have hwatch : stage.Permits limit past
          (.watch child.id pipe.path d.settings.openTimeout) := rfl
      refine (h.ensures_idle hwatch fun _ ↦ rfl).bind fun polls past h ↦ ?_
      split
      · have hfeed : stage.Permits limit past
            (.startFeeder child.id pipe.path d.settings.feedCapacity) := rfl
        refine (h.ensures_call hfeed).bind fun _ past' ⟨_, h⟩ ↦ ⟨hremoved, ?_⟩
        rw [hexit'.trans hexit]
        exact h
      · refine (h.ensures_abandon d).bind fun _ past h ↦ ?_
        exact (At.ensures_remove hremoved h).bind fun _ _ h ↦ h

/-! ## Taking a session apart -/

theorem Whole.ensures_teardown (d : Driver) {session : Session}
    (h : Whole d.settings.terminateTimeout d.sinks session past) :
    Ensures (order d.settings.terminateTimeout) (d.teardown session) past fun _ past' ↦
      At d.settings.terminateTimeout .free past' := by
  obtain ⟨hremoved, h⟩ := h
  let left := Dismantling.ofSession session d.sinks
  have hdrop : (left.knowing session.child.exit).Permits d.settings.terminateTimeout past
      (.dropSender session.child.id) := ⟨rfl, rfl⟩
  unfold Driver.teardown Child.closeInput
  refine (h.ensures_call hdrop).bind fun _ past ⟨_, h⟩ ↦ ?_
  let left₁ := { left with senderDropped := true }
  have hdropped : At d.settings.terminateTimeout (left₁.knowing session.child.exit) past := h
  refine (hdropped.ensures_joinFeeder rfl rfl rfl).bind fun child past ⟨hid, h⟩ ↦ ?_
  let left₂ := { left₁ with feederEnded := true }
  have hclose : (left₂.knowing child.exit).Permits d.settings.terminateTimeout past
      (.closeInput child.id) := ⟨hid, rfl, rfl, rfl⟩
  refine (h.ensures_call hclose).bind fun _ past ⟨_, h⟩ ↦ ?_
  let left₃ := { left₂ with inputClosed := true }
  have hawaiting : left₃.IsAwaiting child.id := ⟨hid.symm, rfl, rfl, rfl⟩
  have hclosed : At d.settings.terminateTimeout (left₃.knowing child.exit) past := h
  refine (hclosed.ensures_waitFor hawaiting).bind fun waited past ⟨hid', hexit, h⟩ ↦ ?_
  refine (h.ensures_joinRelays (hid' ▸ hawaiting) hexit rfl).bind fun _ past h ↦ ?_
  have hunlink : (Dismantling.knowing { left₃ with relays := [] } waited.exit).Permits
      d.settings.terminateTimeout past (.unlink session.pipe.path) :=
    ⟨rfl, rfl, rfl, rfl, hexit, rfl⟩
  unfold ScriptPipe.remove
  rw [if_neg (by rw [hremoved]; exact Bool.false_ne_true)]
  exact (h.ensures_call hunlink).bind fun _ _ ⟨_, h⟩ ↦ h

end Start

end ShellDebugger
