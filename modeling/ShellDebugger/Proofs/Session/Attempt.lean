import ShellDebugger.Proofs.Session.Teardown

/-!
# Attempts to start a session

All that a driver does when it starts a session, and what comes of it. Names are tried until a pipe
can be made; a shell is started on it and its output relayed; then the shell is watched until it
reads its script or is given up. There are four ways for this to end. On three of them the start has
failed, and each takes back what the steps before it have made.
-/

namespace ShellDebugger

open Plan

/-! ## Parts of an attempt -/

/-- Numbers are drawn and no pipe can be made of them. -/
def Fruitless (names : List Event) : Prop :=
  ∀ event ∈ names, (∃ number : UInt64, event = ⟨.drawNumber, number⟩) ∨
    ∃ path cause, event = ⟨.makePipe path, .error cause⟩

/-- A pipe can be made of the last number that is drawn. -/
def Driver.Names (d : Driver) (names : List Event) (path : Path) : Prop :=
  ∃ tried number, Fruitless tried ∧ names = tried ++ [⟨.drawNumber, number⟩] ∧
    path = ScriptPipe.pathOf d.settings.pipeDirectory d.processId number

def relayStarts (child : ChildId) (captured : PerStream Bool) : List Event :=
  (streamsOf captured).map fun stream ↦ ⟨.startRelay child stream, ()⟩

/-- Relays are waited for. Those that have not ended are abandoned. -/
def relayJoins (child : ChildId) (captured : PerStream Bool) (ended : Stream → Bool) : List Event :=
  (streamsOf captured).map fun stream ↦ ⟨.joinRelay child stream, ended stream⟩

/-- A pipe is made, and a shell is started on it. -/
def Driver.launch (d : Driver) (path : Path) (child : ChildId) : List Event :=
  [⟨.makePipe path, .ok ()⟩, ⟨.spawn d.settings.shell [path.octets] d.sinks, .ok child⟩] ++
    relayStarts child d.sinks

/-- How the end of a shell is brought about. -/
inductive Ends (child : ChildId) : List Event → Prop
  /-- It has exited. -/
  | exited (exit : Exit) : Ends child [⟨.exitOf child, some exit⟩]
  /-- It has not, and is killed. -/
  | killed (exit : Exit) :
      Ends child [⟨.exitOf child, none⟩, ⟨.kill child, ()⟩, ⟨.awaitExit child, exit⟩]

def Driver.verdict (d : Driver) (polls : List Poll) : Except OpenFailure Unit :=
  (Poll.settle d.settings.openTimeout polls).getD (.error (.timedOut d.settings.openTimeout))

/-! ## The whole of it -/

/-- What an attempt to start a session does, and what comes of it. -/
inductive Driver.Attempt (d : Driver) : List Event → Except SessionError Session → Prop
  /-- No pipe can be made. -/
  | unmade {names : List Event} (path : Path) (cause : IoError) :
      Fruitless names → Attempt d names (.error (.pipeNotMade path cause))
  /-- No shell can be started. -/
  | unspawned {names : List Event} {path : Path} (cause : IoError)
      (removal : Except IoError Unit) :
      d.Names names path →
      Attempt d
        (names ++ [⟨.makePipe path, .ok ()⟩,
          ⟨.spawn d.settings.shell [path.octets] d.sinks, .error cause⟩,
          ⟨.unlink path, removal⟩])
        (.error (.notSpawned d.settings.shell cause))
  /-- The shell does not read its script. -/
  | unopened {names ending : List Event} {path : Path} {child : ChildId} {polls : List Poll}
      {reason : OpenFailure} (ended : Stream → Bool) (removal : Except IoError Unit) :
      d.Names names path → d.verdict polls = .error reason → Ends child ending →
      Attempt d
        (names ++ (d.launch path child ++
          ⟨.watch child path d.settings.openTimeout, polls⟩ :: ⟨.closeInput child, ()⟩ ::
            (ending ++ (relayJoins child d.sinks ended ++ [⟨.unlink path, removal⟩]))))
        (.error (.pipeNotOpened path reason))
  /-- The shell reads its script. -/
  | opened {names : List Event} {path : Path} {child : Child} {polls : List Poll} :
      d.Names names path → d.verdict polls = .ok () → child.exit = none →
      Attempt d
        (names ++ (d.launch path child.id ++
          [⟨.watch child.id path d.settings.openTimeout, polls⟩,
            ⟨.startFeeder child.id path d.settings.feedCapacity, ()⟩]))
        (.ok ⟨⟨path, false⟩, child⟩)

section Runs

variable {d : Driver} {trace : List Event}

theorem runs_tryNames {last : Path} {tries : Nat} {made : Except SessionError ScriptPipe}
    (hrun : Runs (ScriptPipe.tryNames d.settings.pipeDirectory d.processId last tries) trace made) :
    (∃ path cause, made = .error (.pipeNotMade path cause) ∧ Fruitless trace) ∨
      ∃ names path, made = .ok ⟨path, false⟩ ∧ d.Names names path ∧
        trace = names ++ [⟨.makePipe path, .ok ()⟩] := by
  induction tries generalizing last trace with
  | zero =>
    obtain ⟨rfl, rfl⟩ := runs_pure_iff.mp hrun
    exact .inl ⟨last, _, rfl, List.forall_mem_nil _⟩
  | succ tries ih =>
    obtain ⟨number, rest, hmake, rfl⟩ := runs_call_bind_iff.mp hrun
    obtain ⟨answer, rest, hmade, rfl⟩ := runs_call_bind_iff.mp hmake
    let path := ScriptPipe.pathOf d.settings.pipeDirectory d.processId number
    cases answer with
    | ok _ =>
      obtain ⟨rfl, rfl⟩ := runs_pure_iff.mp hmade
      refine .inr ⟨[⟨.drawNumber, number⟩], path, rfl, ?_, rfl⟩
      exact ⟨[], number, List.forall_mem_nil _, rfl, rfl⟩
    | error cause =>
      -- A name that is refused makes nothing, whether others are tried after it or not.
      have htried {more : List Event} (hmore : Fruitless more) :
          Fruitless (⟨.drawNumber, number⟩ :: ⟨.makePipe path, .error cause⟩ :: more) :=
        List.forall_mem_cons.mpr
          ⟨.inl ⟨number, rfl⟩, List.forall_mem_cons.mpr ⟨.inr ⟨path, cause, rfl⟩, hmore⟩⟩
      have hended (hrest : rest = []) (hmade : made = .error (.pipeNotMade path cause)) :
          ∃ path' cause', made = .error (.pipeNotMade path' cause') ∧
            Fruitless (⟨.drawNumber, number⟩ :: ⟨.makePipe path, .error cause⟩ :: rest) :=
        ⟨path, cause, hmade, hrest ▸ htried (List.forall_mem_nil _)⟩
      cases cause with
      | refused errno =>
        change Runs (if errno = .nameTaken then _ else pure _) rest made at hmade
        split at hmade
        · rcases ih hmade with ⟨path', cause, heq, hrest⟩ | ⟨names, path', heq, hnames, rfl⟩
          · exact .inl ⟨path', cause, heq, htried hrest⟩
          · obtain ⟨tried, number', htried', rfl, hpath⟩ := hnames
            exact .inr ⟨_, path', heq, ⟨_, number', htried htried', rfl, hpath⟩, rfl⟩
        · exact .inl (hended (runs_pure_iff.mp hmade).1 (runs_pure_iff.mp hmade).2)
      | _ => exact .inl (hended (runs_pure_iff.mp hmade).1 (runs_pure_iff.mp hmade).2)

theorem runs_remove {pipe : ScriptPipe} {pipe' : ScriptPipe} (hremoved : pipe.removed = false)
    (hrun : Runs pipe.remove trace pipe') : ∃ removal, trace = [⟨.unlink pipe.path, removal⟩] := by
  unfold ScriptPipe.remove at hrun
  rw [if_neg (by rw [hremoved]; exact Bool.false_ne_true)] at hrun
  obtain ⟨removal, rest, hrest, rfl⟩ := runs_call_bind_iff.mp hrun
  rw [(runs_pure_iff.mp hrest).1]
  exact ⟨removal, rfl⟩

theorem runs_startRelay {child child' : Child} {stream : Stream}
    (hrun : Runs (d.startRelay child stream) trace child')
    (hcaptured : child.streams.get stream = d.sinks.get stream) :
    trace = (if d.sinks.get stream then [⟨.startRelay child.id stream, ()⟩] else []) ∧
      child'.id = child.id ∧ child'.exit = child.exit ∧
        ∀ other, other ≠ stream → child'.streams.get other = child.streams.get other := by
  unfold Driver.startRelay Child.take at hrun
  cases hsink : d.sinks.get stream with
  | true =>
    simp only [hsink, hcaptured, if_true] at hrun
    obtain ⟨-, rest, hrest, rfl⟩ := runs_call_bind_iff.mp hrun
    obtain ⟨rfl, rfl⟩ := runs_pure_iff.mp hrest
    refine ⟨rfl, rfl, rfl, fun other hother ↦ ?_⟩
    rw [PerStream.get_update, if_neg (Ne.symm hother)]
  | false =>
    simp only [hsink, Bool.false_eq_true, if_false] at hrun
    obtain ⟨rfl, rfl⟩ := runs_pure_iff.mp hrun
    exact ⟨rfl, rfl, rfl, fun _ _ ↦ rfl⟩

theorem runs_startRelays {child child' : Child} (hrun : Runs (d.startRelays child) trace child')
    (hcaptured : child.streams = d.sinks) :
    trace = relayStarts child.id d.sinks ∧ child'.id = child.id ∧ child'.exit = child.exit := by
  obtain ⟨first, middle, rest, hfirst, hrest, rfl⟩ := runs_bind_iff.mp hrun
  obtain ⟨rfl, hid, hexit, hother⟩ := runs_startRelay hfirst (by rw [hcaptured])
  have hstderr : middle.streams.get .stderr = d.sinks.get .stderr := by
    rw [hother .stderr nofun, hcaptured]
  obtain ⟨rfl, hid', hexit', -⟩ := runs_startRelay hrest hstderr
  refine ⟨?_, hid'.trans hid, hexit'.trans hexit⟩
  rw [hid, relayStarts, streamsOf, List.map_append]
  unfold PerStream.get
  cases d.sinks.stdout <;> cases d.sinks.stderr <;> rfl

theorem runs_joinRelays {child : Child} {captured : PerStream Bool}
    (hrun : Runs (child.joinRelays captured) trace ()) :
    ∃ ended, trace = relayJoins child.id captured ended := by
  unfold Child.joinRelays at hrun
  unfold relayJoins streamsOf
  cases hstdout : captured.stdout <;> cases hstderr : captured.stderr <;>
    simp only [hstdout, hstderr, Bool.false_eq_true, if_true, if_false] at hrun ⊢
  · exact ⟨fun _ ↦ false, (runs_pure_iff.mp hrun).1⟩
  · obtain ⟨ended, rest, hrest, rfl⟩ := runs_call_bind_iff.mp hrun
    exact ⟨fun _ ↦ ended, by rw [(runs_pure_iff.mp hrest).1]; rfl⟩
  · obtain ⟨ended, rest, hrest, rfl⟩ := runs_call_bind_iff.mp hrun
    exact ⟨fun _ ↦ ended, by rw [(runs_pure_iff.mp hrest).1]; rfl⟩
  · obtain ⟨(ended : Bool), rest, hjoin, rfl⟩ := runs_call_bind_iff.mp hrun
    obtain ⟨(ended' : Bool), rest', hjoined, rfl⟩ := runs_call_bind_iff.mp hjoin
    refine ⟨(⟨ended, ended'⟩ : PerStream Bool).get, ?_⟩
    rw [(runs_pure_iff.mp hjoined).1]
    rfl

/-- A shell of whose end nothing is known is given up. -/
theorem runs_abandon {child : Child} (hexit : child.exit = none)
    (hrun : Runs (d.abandon child) trace ()) :
    ∃ ending ended, Ends child.id ending ∧
      trace = ⟨.closeInput child.id, ()⟩ :: (ending ++ relayJoins child.id d.sinks ended) := by
  unfold Driver.abandon Child.closeInput at hrun
  obtain ⟨⟨⟩, given, hgiven, rfl⟩ := runs_call_bind_iff.mp hrun
  obtain ⟨killing, killed, rest', hkill, hgone, rfl⟩ := runs_bind_iff.mp hgiven
  obtain ⟨waiting, waited, joining, hwait, hjoin, rfl⟩ := runs_bind_iff.mp hgone
  obtain ⟨ended, rfl⟩ := runs_joinRelays hjoin
  unfold Child.kill Child.observe at hkill
  simp only [hexit] at hkill
  obtain ⟨looking, looked, signalling, hlook, hsignal, rfl⟩ := runs_bind_iff.mp hkill
  obtain ⟨answer, hask, rfl⟩ := runs_bind_pure_iff.mp hlook
  obtain rfl := runs_call_iff.mp hask
  cases answer with
  | some exit =>
    obtain ⟨rfl, rfl⟩ := runs_pure_iff.mp hsignal
    obtain ⟨rfl, rfl⟩ := runs_pure_iff.mp hwait
    exact ⟨_, ended, .exited exit, rfl⟩
  | none =>
    obtain ⟨⟨⟩, unseen, hunseen, rfl⟩ := runs_call_bind_iff.mp hsignal
    obtain ⟨rfl, rfl⟩ := runs_pure_iff.mp hunseen
    obtain ⟨exit, hawait, rfl⟩ := runs_bind_pure_iff.mp hwait
    obtain rfl := runs_call_iff.mp hawait
    exact ⟨_, ended, .killed exit, by simp⟩

/-- Every run of a start is an attempt. -/
theorem attempt_of_runs {result : Except SessionError Session}
    (hrun : Runs d.startSession trace result) : d.Attempt trace result := by
  unfold Driver.startSession at hrun
  obtain ⟨making, made, onMade, hmake, honMade, rfl⟩ := runs_bind_iff.mp hrun
  rcases runs_tryNames hmake with ⟨path, cause, rfl, hnames⟩ | ⟨names, path, rfl, hnames, rfl⟩
  · obtain ⟨rfl, rfl⟩ := runs_pure_iff.mp honMade
    rw [List.append_nil]
    exact .unmade path cause hnames
  · obtain ⟨spawning, spawned, onSpawned, hspawn, honSpawned, rfl⟩ := runs_bind_iff.mp honMade
    unfold Child.spawn at hspawn
    obtain ⟨answer, more, hanswer, rfl⟩ := runs_call_bind_iff.mp hspawn
    cases answer with
    | error cause =>
      obtain ⟨rfl, rfl⟩ := runs_pure_iff.mp hanswer
      obtain ⟨removing, removed, failing, hremove, hfail, rfl⟩ := runs_bind_iff.mp honSpawned
      obtain ⟨removal, rfl⟩ := runs_remove rfl hremove
      obtain ⟨rfl, rfl⟩ := runs_pure_iff.mp hfail
      simpa using Driver.Attempt.unspawned cause removal hnames
    | ok id =>
      obtain ⟨rfl, rfl⟩ := runs_pure_iff.mp hanswer
      obtain ⟨relaying, child, watching, hrelay, hwatch, rfl⟩ := runs_bind_iff.mp honSpawned
      obtain ⟨rfl, hid, hexit⟩ := runs_startRelays hrelay rfl
      obtain ⟨polls, deciding, hdecide, rfl⟩ := runs_call_bind_iff.mp hwatch
      obtain rfl : child.id = id := hid
      cases hverdict : d.verdict polls with
      | ok _ =>
        unfold Driver.verdict at hverdict
        simp only [hverdict] at hdecide
        obtain ⟨⟨⟩, feeding, hfeed, rfl⟩ := runs_call_bind_iff.mp hdecide
        obtain ⟨rfl, rfl⟩ := runs_pure_iff.mp hfeed
        simpa [Driver.launch] using Driver.Attempt.opened hnames hverdict hexit
      | error reason =>
        unfold Driver.verdict at hverdict
        simp only [hverdict] at hdecide
        obtain ⟨abandoning, _, closing, habandon, hclose, rfl⟩ := runs_bind_iff.mp hdecide
        obtain ⟨ending, ended, hends, rfl⟩ := runs_abandon hexit habandon
        obtain ⟨removing, removed, failing, hremove, hfail, rfl⟩ := runs_bind_iff.mp hclose
        obtain ⟨removal, rfl⟩ := runs_remove rfl hremove
        obtain ⟨rfl, rfl⟩ := runs_pure_iff.mp hfail
        simpa [Driver.launch] using Driver.Attempt.unopened ended removal hnames hverdict hends

end Runs

end ShellDebugger
