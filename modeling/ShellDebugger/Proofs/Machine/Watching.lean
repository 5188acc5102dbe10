import ShellDebugger.Machine.Basic
import ShellDebugger.Proofs.Host.FileTree
import ShellDebugger.Proofs.Session.Watch

/-!
# Watching on the machine

The machine makes its looks at a process that is to open its script up to a time that it knows
beforehand. At that time there is something to be seen that ends the loop that waits for a reader,
so the loop returns whenever a process is watched on the machine.
-/

namespace ShellDebugger

/-- Opening the write end of a pipe is not refused for want of a reader where it is only asked
whether there is one. -/
theorem FileTree.tryOpenWriter_ne_noReader (tree : FileTree) (path : Path) :
    tree.tryOpenWriter path ≠ .error (.refused .noReader) := by
  unfold tryOpenWriter find
  cases hresolve : tree.resolve true path with
  | error cause =>
    rintro ⟨⟩
    rcases eq_or_mem_of_resolve_eq_error hresolve with ⟨⟨⟩⟩ | ⟨errno, hmem, ⟨⟩⟩
    exact absurd hmem (by decide)
  | ok place =>
    cases hnode : tree.node? place with
    | none => simp [bind, Except.bind, hnode, Errno.noReader, Errno.noEntry]
    | some node =>
      cases node <;> simp [bind, Except.bind, hnode, Errno.noReader, Errno.isDirectory]

namespace Machine

section Looks

variable {attempt : Except IoError Unit} {events : ScriptEvents}

/-- What there is to be seen at each look of a process and its script. -/
def sights (attempt : Except IoError Unit) (events : ScriptEvents) (look : Nat) : Sight where
  opening := do
    events.attemptAt attempt (look * pollInterval)
    if events.opened.any (· < look * pollInterval) then .ok () else .error (.refused .noReader)
  exit := events.exitAt (look * pollInterval)
  clock := ⟨look * pollInterval⟩

theorem poll_sights {look : Nat}
    (hattempt : events.attemptAt attempt (look * pollInterval) ≠ .error (.refused .noReader)) :
    (sights attempt events look).poll =
      { attempt := (events.attemptAt attempt (look * pollInterval)).map
          fun _ ↦ events.opened.any (· < look * pollInterval)
        exit := events.exitAt (look * pollInterval)
        clock := ⟨look * pollInterval⟩ } := by
  have hsame : (sights attempt events look).attempt =
      (events.attemptAt attempt (look * pollInterval)).map
        fun _ ↦ events.opened.any (· < look * pollInterval) := by
    cases hopening : events.attemptAt attempt (look * pollInterval) with
    | error cause =>
      apply Sight.attempt_of_refused
      · simp only [sights, hopening]
        rfl
      · exact fun hcause ↦ hattempt (hopening.trans (congrArg _ hcause))
    | ok _ =>
      cases hopened : events.opened.any (· < look * pollInterval) with
      | true => exact Sight.attempt_of_opened (by simp only [sights, hopening, hopened]; rfl)
      | false => exact Sight.attempt_of_waiting (by simp only [sights, hopening, hopened]; rfl)
  rw [Sight.poll, hsame]
  rfl

theorem lt_lookAfter (time : Nat) : time < lookAfter time / pollInterval * pollInterval := by
  simp only [lookAfter, pollInterval]
  omega

theorem le_lookFrom (time : Nat) : time ≤ lookFrom time / pollInterval * pollInterval := by
  simp only [lookFrom, pollInterval]
  omega

/-- The earliest of some looks is the first one or a look after one of the times. -/
theorem earliest_cases (times : List (Option Nat)) (first : Nat) :
    let earliest := times.foldl (fun last time ↦ min last ((time.map lookAfter).getD last)) first
    earliest = first ∨ ∃ time, some time ∈ times ∧ earliest = lookAfter time := by
  induction times generalizing first with
  | nil => exact .inl rfl
  | cons time rest ih =>
    simp only [List.foldl_cons]
    rcases ih (min first ((time.map lookAfter).getD first)) with heq | ⟨time', hmem, heq⟩
    · rw [heq]
      cases time with
      | none => exact .inl (Nat.min_self first)
      | some time =>
        rcases Nat.le_total first (lookAfter time) with hle | hle
        · exact .inl (Nat.min_eq_left hle)
        · exact .inr ⟨time, List.mem_cons_self, Nat.min_eq_right hle⟩
    · exact .inr ⟨time', List.mem_cons_of_mem _ hmem, heq⟩

/-- The last look is the one at which the time is over, or the first after one of the events. -/
theorem ScriptEvents.lastLook_cases (events : ScriptEvents) (timeout : Nat) :
    events.lastLook timeout = lookFrom timeout ∨
      ∃ time, events.lastLook timeout = lookAfter time ∧
        (events.opened = some time ∨ events.gone.map (·.1) = some time ∨
          events.ended.map (·.1) = some time) := by
  rcases earliest_cases [events.opened, events.gone.map (·.1), events.ended.map (·.1)]
    (lookFrom timeout) with heq | ⟨time, hmem, heq⟩
  · exact .inl heq
  · refine .inr ⟨time, heq, ?_⟩
    simpa [eq_comm] using hmem

/-- At the last look there is something to be seen that ends the loop. -/
theorem isDecisive_lastLook (timeout : Duration)
    (hattempt : ∀ now, events.attemptAt attempt now ≠ .error (.refused .noReader)) :
    (sights attempt events (events.lastLook timeout.milliseconds / pollInterval)).IsDecisive
      timeout := by
  let last := events.lastLook timeout.milliseconds / pollInterval
  have hlate {time : Nat} (hlast : events.lastLook timeout.milliseconds = lookAfter time) :
      time < last * pollInterval := by
    simp only [last, hlast]
    exact lt_lookAfter time
  cases hopening : events.attemptAt attempt (last * pollInterval) with
  | error cause =>
    refine .inr (.inl ⟨cause, fun hcause ↦ hattempt _ (hopening.trans (congrArg _ hcause)), ?_⟩)
    simp only [sights, last] at hopening ⊢
    rw [hopening]
    rfl
  | ok _ =>
    rcases events.lastLook_cases timeout.milliseconds with
      hlast | ⟨time, hlast, hopened | hgone | hended⟩
    · refine .inr (.inr (.inr ?_))
      simp only [sights, hlast]
      exact le_lookFrom _
    · refine .inl ?_
      have hseen := hlate hlast
      simp only [sights, last] at hopening hseen ⊢
      simp only [hopening, hopened, Option.any_some, decide_eq_true hseen]
      rfl
    · -- The script has gone by then, so that opening it is refused.
      obtain ⟨⟨time', cause⟩, hsome, rfl⟩ := Option.map_eq_some_iff.mp hgone
      rw [ScriptEvents.attemptAt, hsome] at hopening
      dsimp only at hopening
      rw [if_pos (hlate hlast)] at hopening
      cases hopening
    · obtain ⟨⟨time', exit⟩, hsome, rfl⟩ := Option.map_eq_some_iff.mp hended
      refine .inr (.inr (.inl ⟨exit, ?_⟩))
      simp only [sights, ScriptEvents.exitAt, hsome, Option.bind_some]
      exact if_pos (hlate hlast)

/-- The looks that the machine makes let the loop return. -/
theorem shows_looks (script : Path) (timeout : Duration)
    (hattempt : ∀ now, events.attemptAt attempt now ≠ .error (.refused .noReader)) :
    Watch.Shows (sights attempt events) script timeout
      (looks attempt events timeout.milliseconds) := by
  let last := events.lastLook timeout.milliseconds / pollInterval
  have hlast : (sights attempt events last).IsDecisive timeout :=
    isDecisive_lastLook timeout hattempt
  obtain ⟨first, hle, hfirst⟩ := Watch.exists_first hlast
  obtain ⟨stage, hdecides, n, -, hreturned⟩ := Watch.returns_at script hfirst
  refine ⟨n, last + 1, ?_, ?_, ?_⟩
  · rw [hreturned]
    exact Watch.hasReturned_of_decides hdecides _
  · rw [hreturned]
    exact Nat.lt_succ_of_le hle
  · simp only [Watch.looks, poll_sights (hattempt _)]
    rfl

end Looks

section Watching

variable {m : Machine} {script : Path}

theorem openingOf_ne_noReader (files : FileTree) (script : Path) :
    openingOf files script ≠ .error (.refused .noReader) := by
  have hfiles := files.tryOpenWriter_ne_noReader script
  unfold openingOf
  cases hopening : files.tryOpenWriter script with
  | ok _ => exact nofun
  | error cause =>
    rw [hopening] at hfiles
    exact fun hcause ↦ hfiles (congrArg _ (Except.error.inj hcause))

/-- A script that has gone is not refused for want of a reader. -/
theorem cause_ne_noReader_of_gone {progress : Process.Progress} {time : Nat} {cause : IoError}
    (hgone : (m.scriptEvents script progress).gone = some (time, cause)) :
    cause ≠ .refused .noReader := by
  simp only [scriptEvents] at hgone
  split at hgone
  · next hopening =>
    cases hgone
    rintro rfl
    exact openingOf_ne_noReader _ _ hopening
  · cases hgone

theorem attemptAt_ne_noReader (progress : Process.Progress) (now : Nat) :
    (m.scriptEvents script progress).attemptAt (openingOf m.files script) now ≠
      .error (.refused .noReader) := by
  unfold ScriptEvents.attemptAt
  split
  · next hgone =>
    split
    · exact fun hcause ↦ cause_ne_noReader_of_gone hgone (Except.error.inj hcause)
    · exact openingOf_ne_noReader _ _
  · exact openingOf_ne_noReader _ _

/-- Whenever a process is watched on the machine, the looks let the loop return that waits for a
reader. -/
theorem exists_shows_watch (m : Machine) {id : ChildId} (hid : id < m.processes.length)
    (script : Path) (timeout : Duration) :
    ∃ sights, Watch.Shows sights script timeout (m.watch id script timeout).2 := by
  unfold watch
  rw [List.getElem?_eq_getElem hid]
  dsimp only
  split
  · exact ⟨_, shows_looks script timeout (attemptAt_ne_noReader _)⟩
  · split
    · exact ⟨_, shows_looks script timeout (attemptAt_ne_noReader _)⟩
    · exact ⟨_, shows_looks script timeout (attemptAt_ne_noReader _)⟩

end Watching

end Machine
end ShellDebugger
