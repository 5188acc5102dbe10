import ShellDebugger.Debugger.Basic
import ShellDebugger.Proofs.Host.PlainSystem
import ShellDebugger.Proofs.Session.Source

/-!
# Reachable debuggers

The states that a debugger can come to, whatever the system answers, and what all of them have in
common: the driver and the navigator are pointed at the same source. Only a load moves either of
them, and it moves the navigator right after the driver has taken the source.
-/

namespace ShellDebugger

open Plan

variable {past : List Event}

namespace Debugger

/-- Driver and navigator are pointed at the same source. -/
def Agrees (d : Debugger) : Prop :=
  d.driver.source = d.navigator.path

/-- A load of a source that fails changes nothing; one that succeeds has read a content and points
the driver and the navigator at the path. -/
theorem ensures_loadSource (d : Debugger) (path : Path) :
    Ensures .any (d.loadSource path) past fun result past ↦
      match result with
      | (.ok _, d') => d'.driver = { d.driver with source := some path } ∧ d.driver.closed = false ∧
          ∃ content, ⟨.read path, .ok content⟩ ∈ past ∧
            d.navigator.load path (.ok content) = .ok d'.navigator
      | (.error e, d') => d' = d ∧ ∀ inner, e ≠ .session (.startFailed inner) := by
  unfold loadSource
  refine (Driver.ensures_checkSource_error path).bind fun checked past hchecked ↦ ?_
  cases checked with
  | error e =>
    refine ⟨rfl, fun inner he ↦ hchecked inner ?_⟩
    cases he
    rfl
  | ok _ =>
    refine ensures_bind_iff.mpr fun content _ ↦ ⟨trivial, ?_⟩
    cases content with
    | error cause => exact ⟨rfl, fun _ ↦ nofun⟩
    | ok content =>
      have hread : (⟨.read path, .ok content⟩ : Event) ∈ past ++ [⟨.read path, .ok content⟩] :=
        List.mem_append_right _ List.mem_cons_self
      refine (Driver.ensures_load_source d.driver path).and_extends.bind
        fun result past' ⟨hextends, hresult⟩ ↦ ?_
      obtain ⟨result, driver⟩ := result
      cases result with
      | error e =>
        obtain ⟨rfl, hkind⟩ := hresult
        exact ⟨rfl, fun inner he ↦ hkind inner (by cases he; rfl)⟩
      | ok _ => exact ⟨hresult.2, hresult.1, content, hextends.subset hread, rfl⟩

/-- What a load of a source leaves is pointed at one source, if what it began with was. -/
theorem ensures_loadSource_agrees {d : Debugger} (h : d.Agrees) (path : Path) :
    Ensures .any (d.loadSource path) past fun result _ ↦ result.2.Agrees := by
  refine (ensures_loadSource d path).mono fun result past hresult ↦ ?_
  obtain ⟨result, driver, navigator⟩ := result
  cases result with
  | error e => exact hresult.1 ▸ h
  | ok _ =>
    obtain ⟨hdriver, -, content, -, hload⟩ := hresult
    cases hload
    exact congrArg Driver.source hdriver

/-- An operation of the driver that leaves the source keeps driver and navigator together. -/
theorem agrees_withDriver {d : Debugger} (h : d.Agrees)
    {result : Except SessionError Unit × Driver} (hsource : result.2.source = d.driver.source) :
    (d.withDriver result).2.Agrees :=
  hsource.trans h

theorem ensures_start_agrees {d : Debugger} (h : d.Agrees) (source : Option Path) :
    Ensures .any (d.start source) past fun result _ ↦ result.2.Agrees := by
  have hstart {d : Debugger} (h : d.Agrees) {past : List Event} :
      Ensures .any (do return d.withDriver (← d.driver.start)) past fun result _ ↦
        result.2.Agrees :=
    (Driver.ensures_start_source d.driver).bind fun _ _ hdriver ↦ agrees_withDriver h hdriver.1
  unfold start
  cases source with
  | none => exact hstart h
  | some path =>
    refine (ensures_loadSource_agrees h path).bind fun result past hresult ↦ ?_
    obtain ⟨result, d'⟩ := result
    cases result with
    | error e => exact hresult
    | ok _ => exact hstart hresult

theorem ensures_submitLines_source (driver : Driver) (lines : List String) :
    Ensures .any (submitLines driver lines) past fun result _ ↦
      result.2.source = driver.source := by
  induction lines generalizing driver past with
  | nil => rfl
  | cons line rest ih =>
    refine (Driver.ensures_enqueue_source driver _).bind fun result past hsource ↦ ?_
    obtain ⟨result, driver'⟩ := result
    cases result with
    | ok _ => exact (ih driver').mono fun _ _ hrest ↦ hrest.trans hsource
    | error e => exact hsource

theorem ensures_runSource_agrees {d : Debugger} (h : d.Agrees) :
    Ensures .any d.runSource past fun result _ ↦ result.2.Agrees := by
  unfold runSource
  split
  · exact h
  · refine ensures_any_bind fun content past ↦ ?_
    split
    · exact h
    · exact (ensures_submitLines_source d.driver _).bind fun _ _ hsource ↦
        agrees_withDriver h hsource

/-- A listing never points the navigator at another source. -/
theorem path_list {nav nav' : Navigator} {content : Except IoError Bytes}
    {request : Navigator.Request} {out out' : Writer}
    (h : nav.list content request out = (.ok nav', out')) : nav'.path = nav.path := by
  unfold Navigator.list Navigator.printPage at h
  split at h
  · cases h
  · split at h
    · cases h
    · split at h
      · cases h
      · cases h
        rfl

theorem ensures_list_agrees {d : Debugger} (h : d.Agrees) (arguments : List String)
    (output : Output) :
    Ensures .any (d.list arguments output) past fun result _ ↦ result.2.1.Agrees := by
  unfold list
  refine ensures_any_bind fun content past ↦ ?_
  split
  · exact h
  · next navigator out hlist =>
    exact h.trans (path_list hlist).symm

theorem ensures_execute_agrees {d : Debugger} (h : d.Agrees) (command : Command)
    (output : Output) :
    Ensures .any (d.execute command output) past fun result _ ↦ result.2.1.Agrees := by
  unfold execute
  cases command with
  | help =>
    -- Taken apart first, so that nobody computes what is printed.
    obtain ⟨written, diag⟩ := output.diag.writeAll (Utf8.encode Command.helpText)
    exact h
  | exit | notImplemented | unknown => exact h
  | load path =>
    cases path with
    | none => exact h
    | some path =>
      refine (ensures_loadSource_agrees h path).bind fun result past hresult ↦ ?_
      obtain ⟨result, d'⟩ := result
      cases result with
      | error e => exact hresult
      | ok _ =>
        exact (Driver.ensures_start_source d'.driver).bind fun _ _ hdriver ↦
          agrees_withDriver hresult hdriver.1
  | list arguments => exact (ensures_list_agrees h arguments output).bind fun _ _ h ↦ h
  | run => exact (ensures_runSource_agrees h).bind fun _ _ h ↦ h
  | send words =>
    exact (Driver.ensures_submit_source d.driver words).bind fun _ _ hsource ↦
      agrees_withDriver h hsource

theorem ensures_shutdown_agrees {d : Debugger} (h : d.Agrees) :
    Ensures .any d.shutdown past fun d' _ ↦ d'.Agrees :=
  (Driver.ensures_close_source d.driver).bind fun _ _ hsource ↦ hsource.trans h

inductive Action where
  | start (source : Option Path)
  | execute (command : Command) (output : Output)
  | shutdown

/-- The debugger after an action, whether or not the action succeeds. -/
def act (d : Debugger) : Action → Plan Debugger
  | .start source => do return (← d.start source).2
  | .execute command output => do return (← d.execute command output).2.1
  | .shutdown => d.shutdown

/-- The debuggers that actions lead to, whatever the system answers. -/
inductive Reachable : Debugger → Prop
  | new (settings : SessionSettings) (processId : Nat) (sinks : PerStream Bool) (count : Nat) :
      Reachable (.ofDriver (.ofSettings settings processId sinks) count)
  | act {d d' : Debugger} (action : Action) {trace : List Event} :
      Reachable d → Runs (d.act action) trace d' → Reachable d'

theorem ensures_act_agrees {d : Debugger} (h : d.Agrees) (action : Action) :
    Ensures .any (d.act action) past fun d' _ ↦ d'.Agrees := by
  cases action with
  | start source => exact (ensures_start_agrees h source).bind fun _ _ h ↦ h
  | execute command output => exact (ensures_execute_agrees h command output).bind fun _ _ h ↦ h
  | shutdown => exact ensures_shutdown_agrees h

/-- In every reachable debugger the driver and the navigator are pointed at the same source. -/
theorem Reachable.agrees {d : Debugger} (h : Reachable d) : d.Agrees := by
  induction h with
  | new => rfl
  | act action _ hrun ih => exact (ensures_act_agrees ih action).of_runs_nil hrun fun _ _ ↦ trivial

/-- A debugger that has nothing yet, for pages of ten lines. -/
def fresh : Debugger :=
  ofDriver (.ofSettings ⟨⟨[0x61]⟩, ⟨[0x62]⟩, 1, ⟨0⟩, none⟩ 0 ⟨false, false⟩) 10

def startedOn (path : Path) : Debugger :=
  (PlainSystem.ofShell true).result (fresh.act (.start (some path)))

theorem reachable_startedOn (path : Path) : (startedOn path).Reachable := by
  have hrun : Runs (fresh.act (.start (some path))) _ (startedOn path) :=
    (PlainSystem.ofShell true).runs (fresh.act (.start (some path)))
  exact .act (.start (some path)) (.new ..) hrun

end Debugger
end ShellDebugger
