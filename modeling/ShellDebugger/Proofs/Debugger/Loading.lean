import ShellDebugger.Proofs.Debugger.Reachable

/-!
# Loads that fail

A load command points the debugger at a source and then starts the shell anew. Of a source that
cannot be taken nothing is left. But when the start fails, the source has been taken already, and it
stays: the load failed, and the driver and the navigator are pointed at the new source.
-/

namespace ShellDebugger.Debugger

open Plan

variable {past : List Event}

def atStart (navigator : Navigator) (path : Path) (content : Bytes) : Navigator where
  path := some path
  width := Numeral.digitCount (Lines.count content)
  cursor := 0
  count := navigator.count

theorem load_eq_ok_iff {navigator navigator' : Navigator} {path : Path} {content : Bytes} :
    navigator.load path (.ok content) = .ok navigator' ↔
      navigator' = atStart navigator path content := by
  constructor
  · rintro ⟨⟩
    rfl
  · rintro rfl
    rfl

/-- What is left of a load command that failed: nothing, or, if it was the start of the shell that
failed, the source that was taken before. -/
theorem ensures_load_left (d : Debugger) (path : Path) (output : Output) :
    Ensures .any (d.execute (.load (some path)) output) past fun result past ↦
      ∀ e, result.1 = .error e →
        ((∀ inner, e ≠ .session (.startFailed inner)) → result.2.1 = d) ∧
          ∀ inner, e = .session (.startFailed inner) →
            result.2.1.driver.source = some path ∧
              ∃ content, ⟨.read path, .ok content⟩ ∈ past ∧
                result.2.1.navigator = atStart d.navigator path content := by
  unfold execute
  refine (ensures_loadSource d path).bind fun result past hresult ↦ ?_
  obtain ⟨result, d'⟩ := result
  cases result with
  | error e =>
    rintro e' ⟨⟩
    exact ⟨fun _ ↦ hresult.1, fun inner he ↦ absurd he (hresult.2 inner)⟩
  | ok _ =>
    obtain ⟨hdriver, hopen, content, hread, hload⟩ := hresult
    have hopen' : d'.driver.closed = false := by rw [hdriver, hopen]
    refine (Driver.ensures_start_source d'.driver).and_extends.bind
      fun started past' ⟨hextends, hsource, hkind⟩ ↦ ?_
    obtain ⟨started, driver⟩ := started
    cases started with
    | ok _ => exact fun _ ↦ nofun
    | error cause =>
      rintro e ⟨⟩
      obtain ⟨inner, rfl⟩ := hkind hopen' cause rfl
      refine ⟨fun hother ↦ absurd rfl (hother inner), fun _ _ ↦ ⟨?_, content, ?_, ?_⟩⟩
      · exact hsource.trans (congrArg Driver.source hdriver)
      · exact hextends.subset hread
      · exact load_eq_ok_iff.mp hload

/-- A load command that fails leaves the recorded source and the navigator as they were, unless it
was the start of the shell that failed. Then both are pointed at the start of the new source, so
that they are as they were only if they were there before. -/
theorem execute_load_failed {d d' : Debugger} {path : Path} {output output' : Output}
    {e : CommandError} {trace : List Event}
    (hrun : Runs (d.execute (.load (some path)) output) trace (.error e, d', output')) :
    ((∀ inner, e ≠ .session (.startFailed inner)) → d' = d) ∧
      ∀ inner, e = .session (.startFailed inner) →
        ∃ content, ⟨.read path, .ok content⟩ ∈ trace ∧
          d'.driver.source = some path ∧ d'.navigator = atStart d.navigator path content ∧
          (d'.driver.source = d.driver.source ∧ d'.navigator = d.navigator ↔
            d.driver.source = some path ∧ d.navigator = atStart d.navigator path content) := by
  obtain ⟨hother, hstart⟩ :=
    (ensures_load_left d path output).of_runs_nil hrun (fun _ _ ↦ trivial) e rfl
  refine ⟨hother, fun inner he ↦ ?_⟩
  obtain ⟨hsource, content, hread, hnavigator⟩ := hstart inner he
  refine ⟨content, hread, hsource, hnavigator, ?_⟩
  rw [hsource, hnavigator]
  exact and_congr eq_comm eq_comm

/-- Where the shell cannot be started any more, a load command leaves the debugger at the new
source. -/
theorem execute_load_failed_without_shell :
    let d := startedOn ⟨[0x63]⟩
    let (result, d', _) := (PlainSystem.ofShell false).result
      (d.execute (.load (some ⟨[0x64]⟩)) ⟨.unlimited, .unlimited⟩)
    result = .error (.session (.startFailed (.notSpawned ⟨[0x61]⟩ (.refused .noEntry)))) ∧
      d'.driver.source = some ⟨[0x64]⟩ ∧
      d'.navigator = atStart d.navigator ⟨[0x64]⟩ [0x3A, 0x0A] := by
  have hrun := (PlainSystem.ofShell false).runs
    ((startedOn ⟨[0x63]⟩).execute (.load (some ⟨[0x64]⟩)) ⟨.unlimited, .unlimited⟩)
  obtain ⟨content, hread, hsource, hnavigator, -⟩ := (execute_load_failed hrun).2 _ rfl
  cases PlainSystem.answer_of_mem_trace _ hread
  exact ⟨rfl, hsource, hnavigator⟩

/-- A load command that fails does not always keep the source. -/
theorem not_execute_load_keeps_source :
    ¬ ∀ d : Debugger, d.Reachable → ∀ path output trace e d' output',
      Runs (d.execute (.load (some path)) output) trace (.error e, d', output') →
        d'.driver.source = d.driver.source ∧ d'.navigator = d.navigator := by
  intro hkeeps
  have hrun := (PlainSystem.ofShell false).runs
    ((startedOn ⟨[0x63]⟩).execute (.load (some ⟨[0x64]⟩)) ⟨.unlimited, .unlimited⟩)
  have hsource := (hkeeps _ (reachable_startedOn ⟨[0x63]⟩) _ _ _ _ _ _ hrun).1
  exact absurd hsource (by decide)

end ShellDebugger.Debugger
