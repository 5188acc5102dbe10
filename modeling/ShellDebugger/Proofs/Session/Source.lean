import ShellDebugger.Proofs.Host.PlanRuns
import ShellDebugger.Session.Driver

/-!
# The source of a driver

Only a load that succeeds changes the source that a driver has recorded. A start that is not refused
fails only as a start, and no other operation fails as one.
-/

namespace ShellDebugger.Driver

open Plan

variable {past : List Event}

theorem ensures_withoutSession_eq (d : Driver) :
    Ensures .any d.withoutSession past fun d' _ ↦ d' = { d with session := none } := by
  unfold withoutSession
  cases d.session with
  | none => rfl
  | some session =>
    exact ensures_any_bind fun _ _ ↦ rfl

/-- A start leaves the source, and unless the driver is closed it fails only as a start. -/
theorem ensures_start_source (d : Driver) :
    Ensures .any d.start past fun result _ ↦
      result.2.source = d.source ∧
        (d.closed = false → ∀ e, result.1 = .error e → ∃ inner, e = .startFailed inner) := by
  unfold start
  cases hclosed : d.closed with
  | true => exact ⟨rfl, nofun⟩
  | false =>
    refine (ensures_withoutSession_eq d).bind fun d' past hd' ↦ ?_
    subst hd'
    refine ensures_any_bind fun result past ↦ ?_
    cases result with
    | ok session => exact ⟨rfl, fun _ _ ↦ nofun⟩
    | error inner => exact ⟨rfl, fun _ e he ↦ ⟨inner, by cases he; rfl⟩⟩

theorem ensures_close_source (d : Driver) :
    Ensures .any d.close past fun d' _ ↦ d'.source = d.source := by
  unfold close
  refine (ensures_withoutSession_eq _).mono fun d' past hd' ↦ ?_
  rw [hd']

theorem ensures_observe_source (d : Driver) :
    Ensures .any d.observe past fun d' _ ↦ d'.source = d.source := by
  unfold observe
  cases d.session with
  | none => rfl
  | some session =>
    exact ensures_any_bind fun _ _ ↦ rfl

theorem ensures_enqueue_source (d : Driver) (line : String) :
    Ensures .any (d.enqueue line) past fun result _ ↦ result.2.source = d.source := by
  unfold enqueue
  refine (ensures_observe_source d).bind fun d' past hsource ↦ ?_
  split
  · exact hsource
  · exact fun _ _ ↦ ⟨trivial, hsource⟩

theorem ensures_submit_source (d : Driver) (words : List String) :
    Ensures .any (d.submit words) past fun result _ ↦ result.2.source = d.source := by
  unfold submit
  split
  · rfl
  · exact ensures_enqueue_source d _

/-- A check fails with an error of its own kind. -/
theorem ensures_checkSource_error (path : Path) :
    Ensures .any (checkSource path) past fun result _ ↦
      ∀ inner, result ≠ .error (.startFailed inner) := by
  unfold checkSource
  intro answer _
  refine ⟨trivial, ?_⟩
  cases answer with
  | ok isDirectory => cases isDirectory <;> exact fun _ ↦ nofun
  | error cause =>
    change Ensures .any (if cause = .refused .noEntry then pure _ else pure _) _ _
    split <;> exact fun _ ↦ nofun

/-- A load records the source of a driver that is not closed, or changes nothing. -/
theorem ensures_load_source (d : Driver) (path : Path) :
    Ensures .any (d.load path) past fun result _ ↦
      match result with
      | (.ok _, d') => d.closed = false ∧ d' = { d with source := some path }
      | (.error e, d') => d' = d ∧ ∀ inner, e ≠ .startFailed inner := by
  unfold load
  cases hclosed : d.closed with
  | true => exact ⟨rfl, fun _ ↦ nofun⟩
  | false =>
    refine (ensures_checkSource_error path).bind fun checked past hchecked ↦ ?_
    cases checked with
    | ok _ => exact ⟨rfl, rfl⟩
    | error e =>
      refine ⟨rfl, fun inner he ↦ hchecked inner ?_⟩
      rw [he]

end ShellDebugger.Driver
