import Mathlib.Data.Nat.Find
import Mathlib.Logic.Function.Iterate
import Mathlib.Order.Bounds.Basic
import ShellDebugger.Proofs.Session.StartOutcome
import ShellDebugger.Session.Watch

/-!
# Waiting for a reader

The loop that waits for a shell to open its script returns at the first look at which there is
something to be seen that ends it: that somebody reads, that opening fails, that the shell has
exited, or that its time is over, and of several of these the first counts. A look at which there is
nothing of this is followed by another one, so the first look decides alone how the loop returns. A
start comes to what the loop returns, and if that is a failure, it has killed the shell unless it
had exited, and seen it exit.
-/

namespace ShellDebugger

open Plan

namespace Sight

/-- There is something to be seen that ends the loop: somebody reads, opening fails, the shell has
exited, or its time is over. -/
def IsDecisive (s : Sight) (timeout : Duration) : Prop :=
  s.opening = .ok () ∨ (∃ cause, cause ≠ .refused .noReader ∧ s.opening = .error cause) ∨
    (∃ exit, s.exit = some exit) ∨ timeout.milliseconds ≤ s.clock.milliseconds

/-- How the loop ends with what there is to be seen. Of several things the first one counts. -/
inductive Decides (s : Sight) (script : Path) (timeout : Duration) : Watch.Stage → Prop
  /-- Somebody reads. -/
  | opened : s.opening = .ok () → Decides s script timeout .opened
  /-- Opening fails. -/
  | refused {cause : IoError} : s.opening = .error cause → cause ≠ .refused .noReader →
      Decides s script timeout (.failed (.pipeNotOpened script (.refused cause)))
  /-- Nobody reads, and the shell has exited. -/
  | exited {exit : Exit} : s.opening = .error (.refused .noReader) → s.exit = some exit →
      Decides s script timeout (.failed (.pipeNotOpened script (.exited exit)))
  /-- Nobody reads, the shell has not exited, and its time is over. -/
  | timedOut : s.opening = .error (.refused .noReader) → s.exit = none →
      timeout.milliseconds ≤ s.clock.milliseconds →
      Decides s script timeout (.failed (.pipeNotOpened script (.timedOut timeout)))

variable {s : Sight} {script : Path} {timeout : Duration} {stage : Watch.Stage}

/-- There are three things that a try can come to. -/
theorem opening_cases (s : Sight) :
    s.opening = .ok () ∨ s.opening = .error (.refused .noReader) ∨
      ∃ cause, cause ≠ .refused .noReader ∧ s.opening = .error cause := by
  cases hopening : s.opening with
  | ok _ => exact .inl rfl
  | error cause =>
    by_cases hreader : cause = .refused .noReader
    · exact .inr (.inl (by rw [hreader]))
    · exact .inr (.inr ⟨cause, hreader, rfl⟩)

/-- Something ends the loop if and only if it ends in some way. -/
theorem isDecisive_iff (script : Path) :
    s.IsDecisive timeout ↔ ∃ stage, s.Decides script timeout stage := by
  constructor
  · intro hdecisive
    rcases s.opening_cases with hopened | hwaiting | ⟨cause, hcause, hrefused⟩
    · exact ⟨_, .opened hopened⟩
    · cases hexit : s.exit with
      | some exit => exact ⟨_, .exited hwaiting hexit⟩
      | none =>
        rcases hdecisive with hopened | ⟨cause, hcause, hrefused⟩ | ⟨exit, hexited⟩ | hlate
        · rw [hwaiting] at hopened
          cases hopened
        · rw [hwaiting] at hrefused
          cases hrefused
          exact absurd rfl hcause
        · rw [hexit] at hexited
          cases hexited
        · exact ⟨_, .timedOut hwaiting hexit hlate⟩
    · exact ⟨_, .refused hrefused hcause⟩
  · rintro ⟨stage, hdecides⟩
    cases hdecides with
    | opened hopened => exact .inl hopened
    | refused hrefused hcause => exact .inr (.inl ⟨_, hcause, hrefused⟩)
    | exited _ hexit => exact .inr (.inr (.inl ⟨_, hexit⟩))
    | timedOut _ _ hlate => exact .inr (.inr (.inr hlate))

theorem Decides.eq_opened (hdecides : s.Decides script timeout stage)
    (hopened : s.opening = .ok ()) : stage = .opened := by
  cases hdecides with
  | opened _ => rfl
  | refused hrefused _ => exact absurd (hopened.symm.trans hrefused) nofun
  | exited hwaiting _ => exact absurd (hopened.symm.trans hwaiting) nofun
  | timedOut hwaiting _ _ => exact absurd (hopened.symm.trans hwaiting) nofun

theorem attempt_of_opened (hopened : s.opening = .ok ()) : s.attempt = .ok true := by
  simp only [attempt, hopened]

theorem attempt_of_waiting (hwaiting : s.opening = .error (.refused .noReader)) :
    s.attempt = .ok false := by
  simp only [attempt, hwaiting, if_true]

theorem attempt_of_refused {cause : IoError} (hrefused : s.opening = .error cause)
    (hcause : cause ≠ .refused .noReader) : s.attempt = .error cause := by
  simp only [attempt, hrefused, if_neg hcause]

/-- Nothing ends the loop if nobody reads, the shell has not exited, and there is time left. -/
theorem of_not_isDecisive (hgoes : ¬ s.IsDecisive timeout) :
    s.attempt = .ok false ∧ s.exit = none ∧ ¬ timeout.milliseconds ≤ s.clock.milliseconds := by
  simp only [IsDecisive, not_or] at hgoes
  obtain ⟨hclosed, hrefused, hexit, hearly⟩ := hgoes
  have hnone : s.exit = none :=
    Option.eq_none_iff_forall_ne_some.mpr fun exit hexited ↦ hexit ⟨exit, hexited⟩
  refine ⟨?_, hnone, hearly⟩
  rcases s.opening_cases with hopened | hwaiting | hcause
  · exact absurd hopened hclosed
  · exact attempt_of_waiting hwaiting
  · exact absurd hcause hrefused

end Sight

namespace Watch

variable {sights : Nat → Sight} {script : Path} {timeout : Duration} {stage : Stage} {look : Nat}

theorem after_eq_iterate (sights : Nat → Sight) (script : Path) (timeout : Duration) (n : Nat) :
    after sights script timeout n = (step sights)^[n] (ofScript script timeout) := by
  induction n with
  | zero => rfl
  | succ n ih => rw [Function.iterate_succ_apply', ← ih, after]

theorem after_add (sights : Nat → Sight) (script : Path) (timeout : Duration) (m n : Nat) :
    after sights script timeout (m + n) = (step sights)^[n] (after sights script timeout m) := by
  rw [after_eq_iterate, after_eq_iterate, Nat.add_comm, Function.iterate_add_apply]

/-- A loop that has returned does nothing more. -/
theorem iterate_of_hasReturned {w : Watch} (hreturned : w.hasReturned = true) (n : Nat) :
    (step sights)^[n] w = w := by
  apply Function.iterate_fixed
  obtain ⟨script, timeout, look, tries, stage⟩ := w
  cases stage with
  | opened => rfl
  | failed error => rfl
  | _ => cases hreturned

/-- A look at which nothing ends the loop is followed by the next one. -/
theorem iterate_of_not_isDecisive (hgoes : ¬ (sights look).IsDecisive timeout) :
    (step sights)^[4] ⟨script, timeout, look, look, .trying⟩ =
      ⟨script, timeout, look + 1, look + 1, .trying⟩ := by
  obtain ⟨hattempt, hexit, hearly⟩ := Sight.of_not_isDecisive hgoes
  simp only [Function.iterate_succ_apply, Function.iterate_zero_apply, step, hattempt, hexit,
    if_neg hearly]

/-- A look at which something ends the loop ends it so. -/
theorem iterate_of_decides (hdecides : (sights look).Decides script timeout stage) :
    ∃ n ≤ 3, (step sights)^[n] ⟨script, timeout, look, look, .trying⟩ =
      ⟨script, timeout, look, look + 1, stage⟩ := by
  cases hdecides with
  | opened hopened =>
    refine ⟨1, by decide, ?_⟩
    simp only [Function.iterate_one, step, Sight.attempt_of_opened hopened]
  | refused hrefused hcause =>
    refine ⟨1, by decide, ?_⟩
    simp only [Function.iterate_one, step, Sight.attempt_of_refused hrefused hcause, fail]
  | exited hwaiting hexit =>
    refine ⟨2, by decide, ?_⟩
    simp only [Function.iterate_succ_apply, Function.iterate_zero_apply, step,
      Sight.attempt_of_waiting hwaiting, hexit, fail]
  | timedOut hwaiting hexit hlate =>
    refine ⟨3, by decide, ?_⟩
    simp only [Function.iterate_succ_apply, Function.iterate_zero_apply, step,
      Sight.attempt_of_waiting hwaiting, hexit, if_pos hlate, fail]

/-- The loop comes to every look before which nothing ends it. -/
theorem after_of_forall_not_isDecisive (hgoes : ∀ k < look, ¬ (sights k).IsDecisive timeout) :
    after sights script timeout (4 * look) = ⟨script, timeout, look, look, .trying⟩ := by
  induction look with
  | zero => rfl
  | succ look ih =>
    have hhere := ih fun k hk ↦ hgoes k (Nat.lt_succ_of_lt hk)
    calc
      after sights script timeout (4 * (look + 1))
        = (step sights)^[4] (after sights script timeout (4 * look)) := after_add ..
      _ = (step sights)^[4] ⟨script, timeout, look, look, .trying⟩ := by rw [hhere]
      _ = ⟨script, timeout, look + 1, look + 1, .trying⟩ :=
          iterate_of_not_isDecisive (hgoes look (Nat.lt_succ_self look))

/-- The loop returns at the first look at which something ends it. -/
theorem returns_at (script : Path) (hfirst : IsLeast {k | (sights k).IsDecisive timeout} look) :
    ∃ stage, (sights look).Decides script timeout stage ∧ ∃ n ≤ 4 * look + 3,
      after sights script timeout n = ⟨script, timeout, look, look + 1, stage⟩ := by
  obtain ⟨stage, hdecides⟩ := (Sight.isDecisive_iff script).mp hfirst.1
  obtain ⟨n, hn, hreturned⟩ := iterate_of_decides hdecides
  refine ⟨stage, hdecides, 4 * look + n, Nat.add_le_add_left hn _, ?_⟩
  rw [after_add, after_of_forall_not_isDecisive, hreturned]
  exact fun k hk hdecisive ↦ Nat.not_lt.mpr (hfirst.2 hdecisive) hk

/-- A loop that is decided by what there is to be seen has returned. -/
theorem hasReturned_of_decides {s : Sight} (hdecides : s.Decides script timeout stage)
    (tries : Nat) : (⟨script, timeout, look, tries, stage⟩ : Watch).hasReturned = true := by
  cases hdecides <;> rfl

/-- Where something ends the loop, there is a first look at which something does. -/
theorem exists_first (hdecisive : (sights look).IsDecisive timeout) :
    ∃ first ≤ look, IsLeast {k | (sights k).IsDecisive timeout} first := by
  classical
  have hsome : ∃ k, (sights k).IsDecisive timeout := ⟨look, hdecisive⟩
  exact ⟨Nat.find hsome, Nat.find_min' hsome hdecisive, Nat.find_spec hsome,
    fun k hk ↦ Nat.find_min' hsome hk⟩

/-- Whenever the loop has returned, it has done so at the first look at which something ends it, and
as that has it. -/
theorem of_hasReturned {n : Nat} {w : Watch} (hw : after sights script timeout n = w)
    (hreturned : w.hasReturned = true) :
    IsLeast {k | (sights k).IsDecisive timeout} w.look ∧
      (sights w.look).Decides script timeout w.stage ∧ w.tries = w.look + 1 := by
  -- A loop that has returned stays as it is, so there is only one such state.
  have hlater (m : Nat) (hm : n ≤ m) : after sights script timeout m = w := by
    rw [← Nat.add_sub_of_le hm, after_add, hw, iterate_of_hasReturned hreturned]
  by_cases hsome : ∃ k, (sights k).IsDecisive timeout
  · obtain ⟨k, hk⟩ := hsome
    obtain ⟨first, -, hfirst⟩ := exists_first hk
    obtain ⟨stage, hdecides, m, -, hm⟩ := returns_at script hfirst
    have hsame : w = ⟨script, timeout, first, first + 1, stage⟩ := by
      rcases Nat.le_total n m with hle | hle
      · rw [← hm, hlater m hle]
      · rw [← hw, ← Nat.add_sub_of_le hle, after_add, hm,
          iterate_of_hasReturned (hasReturned_of_decides hdecides _)]
    rw [hsame]
    exact ⟨hfirst, hdecides, rfl⟩
  · have hnever : after sights script timeout (4 * n) = ⟨script, timeout, n, n, .trying⟩ :=
      after_of_forall_not_isDecisive fun k _ hk ↦ hsome ⟨k, hk⟩
    rw [hlater _ (by omega)] at hnever
    rw [hnever] at hreturned
    cases hreturned

/-! ## The looks that are made -/

/-- How the loop has returned with what a look decides. -/
def Stage.ofVerdict (script : Path) : Except OpenFailure Unit → Stage
  | .ok _ => .opened
  | .error reason => .failed (.pipeNotOpened script reason)

theorem exists_verdict {s : Sight} (hdecides : s.Decides script timeout stage) :
    ∃ verdict, s.poll.verdict timeout = some verdict ∧ stage = .ofVerdict script verdict := by
  cases hdecides with
  | opened hopened =>
    refine ⟨.ok (), ?_, rfl⟩
    simp only [Poll.verdict, Sight.poll, Sight.attempt_of_opened hopened]
  | refused hrefused hcause =>
    refine ⟨.error _, ?_, rfl⟩
    simp only [Poll.verdict, Sight.poll, Sight.attempt_of_refused hrefused hcause]
  | exited hwaiting hexit =>
    refine ⟨.error _, ?_, rfl⟩
    simp only [Poll.verdict, Sight.poll, Sight.attempt_of_waiting hwaiting, hexit]
  | timedOut hwaiting hexit hlate =>
    refine ⟨.error _, ?_, rfl⟩
    simp only [Poll.verdict, Sight.poll, Sight.attempt_of_waiting hwaiting, hexit, if_pos hlate]

theorem verdict_of_not_isDecisive {s : Sight} (hgoes : ¬ s.IsDecisive timeout) :
    s.poll.verdict timeout = none := by
  obtain ⟨hattempt, hexit, hearly⟩ := Sight.of_not_isDecisive hgoes
  simp only [Poll.verdict, Sight.poll, hattempt, hexit, if_neg hearly]

/-- The first looks at what there is to be seen. -/
def looks (sights : Nat → Sight) (count : Nat) : List Poll :=
  (List.range count).map fun k ↦ (sights k).poll

/-- The looks up to the one at which the loop returns settle how it returns, and those after it make
no difference. -/
theorem exists_settle_looks (hfirst : IsLeast {k | (sights k).IsDecisive timeout} look)
    (hdecides : (sights look).Decides script timeout stage) {count : Nat} (hcount : look < count) :
    ∃ verdict, Poll.settle timeout (looks sights count) = some verdict ∧
      stage = .ofVerdict script verdict := by
  obtain ⟨verdict, hverdict, hstage⟩ := exists_verdict hdecides
  refine ⟨verdict, ?_, hstage⟩
  obtain ⟨more, rfl⟩ := Nat.exists_eq_add_of_lt hcount
  have hlooks : looks sights (look + more + 1) =
      looks sights look ++ (sights look).poll ::
        (List.range more).map fun k ↦ (sights (look + (k + 1))).poll := by
    rw [looks, Nat.add_assoc, List.range_add, List.range_succ_eq_map]
    simp [looks, Function.comp_def]
  rw [Poll.settle, hlooks, List.findSome?_append, List.findSome?_eq_none_iff.mpr]
  · simp [hverdict]
  · intro poll hpoll
    obtain ⟨k, hk, rfl⟩ := List.mem_map.mp hpoll
    apply verdict_of_not_isDecisive
    intro hdecisive
    exact Nat.not_lt.mpr (hfirst.2 hdecisive) (List.mem_range.mp hk)

/-- The looks that a watch shows let the loop return: they are the first looks at what there is to
be seen, up to the one at which it returns or further. -/
def Shows (sights : Nat → Sight) (script : Path) (timeout : Duration) (polls : List Poll) : Prop :=
  ∃ n count, (after sights script timeout n).hasReturned = true ∧
    (after sights script timeout n).look < count ∧ polls = looks sights count

end Watch

/-! ## Starts that watch a shell -/

def watchedBy : Event → Option (ChildId × Path × Duration × List Poll)
  | ⟨.watch child script timeout, polls⟩ => some (child, script, timeout, polls)
  | _ => none

theorem IsBlind.of_watchedBy : IsBlind watchedBy := by
  constructor <;> intros <;> rfl

section Attempt

variable {d : Driver} {trace : List Event} {result : Except SessionError Session}
  {child : ChildId} {script : Path} {timeout : Duration} {polls : List Poll}

/-- A shell that was watched is given up: its input is closed, it is killed unless it has exited,
and it is seen to exit. -/
def IsGivenUp (trace : List Event) (watch : Event) (child : ChildId) : Prop :=
  ∃ before ending after, Ends child ending ∧
    trace = before ++ watch :: ⟨.closeInput child, ()⟩ :: (ending ++ after) ∧
      (held trace).children = []

/-- What a start comes to in which a shell was watched, when the loop has returned. -/
inductive Concludes (trace : List Event) (watch : Event) (child : ChildId) (script : Path) :
    Watch.Stage → Except SessionError Session → Prop
  /-- The shell and its script are a session. -/
  | opened {session : Session} : session.pipe.path = script → session.child.id = child →
      Concludes trace watch child script .opened (.ok session)
  /-- The shell is given up, and after that the start fails as the loop has failed. -/
  | failed (error : SessionError) : IsGivenUp trace watch child →
      Concludes trace watch child script (.failed error) (.error error)

/-- What an attempt comes to in which a shell is watched. -/
theorem Driver.Attempt.concludes (hattempt : d.Attempt trace result)
    (hwatch : ⟨.watch child script timeout, polls⟩ ∈ trace) :
    timeout = d.settings.openTimeout ∧ ⟨.makePipe script, .ok ()⟩ ∈ trace ∧
      ⟨.spawn d.settings.shell [script.octets] d.sinks, .ok child⟩ ∈ trace ∧
        Concludes trace ⟨.watch child script timeout, polls⟩ child script
          (.ofVerdict script (d.verdict polls)) result := by
  have hshown : (child, script, timeout, polls) ∈ trace.filterMap watchedBy :=
    List.mem_filterMap.mpr ⟨_, hwatch, rfl⟩
  have hreaped (cause : SessionError) (hfailed : result = .error cause) :
      (held trace).children = [] := by
    subst hfailed
    exact hattempt.hasTakenBack.reaped
  cases hattempt with
  | unmade path cause hnames =>
    rw [IsBlind.of_watchedBy.filterMap_names hnames] at hshown
    cases hshown
  | unspawned cause removal hnames =>
    rw [List.filterMap_append, IsBlind.of_watchedBy.filterMap_names hnames.fruitless] at hshown
    cases hshown
  | unopened ended removal hnames hverdict hends =>
    rw [IsBlind.of_watchedBy.filterMap_unopened hnames.fruitless hends,
      Driver.filterMap_launch fun _ ↦ rfl, filterMap_relayJoins fun _ ↦ rfl] at hshown
    obtain ⟨rfl, rfl, rfl, rfl⟩ : child = _ ∧ script = _ ∧ timeout = _ ∧ polls = _ := by
      simpa [watchedBy] using hshown
    refine ⟨rfl, by simp [Driver.launch], by simp [Driver.launch], ?_⟩
    rw [hverdict]
    exact .failed _ ⟨_, _, _, hends, (List.append_assoc ..).symm, hreaped _ rfl⟩
  | opened hnames hverdict hexit =>
    rw [IsBlind.of_watchedBy.filterMap_opened hnames.fruitless fun _ ↦ rfl] at hshown
    obtain ⟨rfl, rfl, rfl, rfl⟩ : child = _ ∧ script = _ ∧ timeout = _ ∧ polls = _ := by
      simpa [watchedBy] using hshown
    refine ⟨rfl, by simp [Driver.launch], by simp [Driver.launch], ?_⟩
    rw [hverdict]
    exact .opened rfl rfl

/-- A watch that lets the loop return settles what the loop returns. -/
theorem Watch.Shows.exists_verdict {sights : Nat → Sight} (d : Driver)
    (hshows : Watch.Shows sights script d.settings.openTimeout polls) :
    ∃ n, let w := Watch.after sights script d.settings.openTimeout n
      w.hasReturned = true ∧ w.stage = .ofVerdict script (d.verdict polls) := by
  obtain ⟨n, count, hreturned, hcount, rfl⟩ := hshows
  obtain ⟨hfirst, hdecides, -⟩ := Watch.of_hasReturned rfl hreturned
  obtain ⟨verdict, hsettle, hstage⟩ := Watch.exists_settle_looks hfirst hdecides hcount
  refine ⟨n, hreturned, ?_⟩
  rw [Driver.verdict, hsettle]
  exact hstage

end Attempt

/-! ## The result -/

/-- Where every look is some time after the one before it, there is one at which the time is
over. -/
theorem Sight.exists_late {sights : Nat → Sight} {pause : Nat} (hpause : 0 < pause)
    (hclock : ∀ k, (sights k).clock.milliseconds + pause ≤ (sights (k + 1)).clock.milliseconds)
    (timeout : Duration) :
    timeout.milliseconds ≤ (sights (timeout.milliseconds / pause + 1)).clock.milliseconds := by
  have hafter (k : Nat) : k * pause ≤ (sights k).clock.milliseconds := by
    induction k with
    | zero => simp
    | succ k ih =>
      calc
        (k + 1) * pause = k * pause + pause := Nat.succ_mul k pause
        _ ≤ (sights k).clock.milliseconds + pause := Nat.add_le_add_right ih pause
        _ ≤ (sights (k + 1)).clock.milliseconds := hclock k
  calc
    timeout.milliseconds ≤ (timeout.milliseconds / pause + 1) * pause := by
      rw [Nat.mul_comm]
      exact Nat.le_of_lt (Nat.lt_mul_div_succ _ hpause)
    _ ≤ _ := hafter _

/-- Whatever there is to be seen at each look, and however long the shell has: when the loop has
returned, the look at hand is the first at which something ends it, the write end has been tried
once at each look up to this one, and the loop has returned as this look decides. No look that finds
a reader is passed over or counts as anything else. The loop does return where there is a look at
which something ends it, so at the latest with the first look after its time is over, and there is
such a look if the clock goes on between looks. A start of whose shell the watch shows these looks
has made the pipe, started the shell on it, and comes to what the loop has returned; if this is a
failure, the shell has been killed unless it had exited, and has been seen to exit. -/
theorem Driver.startSession_ends_at_first_decision (sights : Nat → Sight) :
    (∀ script timeout,
      (∀ n, let w := Watch.after sights script timeout n
        w.hasReturned = true →
          IsLeast {k | (sights k).IsDecisive timeout} w.look ∧ w.tries = w.look + 1 ∧
            (sights w.look).Decides script timeout w.stage ∧
              ∀ k ≤ w.look, (sights k).opening = .ok () → w.stage = .opened) ∧
      (∀ k, (sights k).IsDecisive timeout →
        ∃ n ≤ 4 * k + 3, (Watch.after sights script timeout n).hasReturned = true) ∧
      ∀ pause, 0 < pause →
        (∀ k, (sights k).clock.milliseconds + pause ≤ (sights (k + 1)).clock.milliseconds) →
          ∃ n ≤ 4 * (timeout.milliseconds / pause + 1) + 3,
            (Watch.after sights script timeout n).hasReturned = true) ∧
    ∀ d trace result, Runs (Driver.startSession d) trace result →
      ∀ child script timeout polls, ⟨.watch child script timeout, polls⟩ ∈ trace →
        Watch.Shows sights script timeout polls →
          timeout = d.settings.openTimeout ∧ ⟨.makePipe script, .ok ()⟩ ∈ trace ∧
            ⟨.spawn d.settings.shell [script.octets] d.sinks, .ok child⟩ ∈ trace ∧
              ∃ n, let w := Watch.after sights script timeout n
                w.hasReturned = true ∧
                  Concludes trace ⟨.watch child script timeout, polls⟩ child script w.stage
                    result := by
  refine ⟨fun script timeout ↦ ?_, fun d trace result hrun child script timeout polls hwatch ↦ ?_⟩
  · have hreturns (k : Nat) (hk : (sights k).IsDecisive timeout) :
        ∃ n ≤ 4 * k + 3, (Watch.after sights script timeout n).hasReturned = true := by
      obtain ⟨first, hle, hfirst⟩ := Watch.exists_first hk
      obtain ⟨stage, hdecides, n, hn, hw⟩ := Watch.returns_at script hfirst
      exact ⟨n, by omega, hw ▸ Watch.hasReturned_of_decides hdecides _⟩
    refine ⟨fun n ↦ ?_, hreturns, fun pause hpause hclock ↦ ?_⟩
    · intro w hreturned
      obtain ⟨hfirst, hdecides, htries⟩ := Watch.of_hasReturned rfl hreturned
      refine ⟨hfirst, htries, hdecides, fun k hk hopened ↦ ?_⟩
      -- The loop would not have gone past a look that finds a reader.
      have hhere : k = w.look := Nat.le_antisymm hk (hfirst.2 (.inl hopened))
      exact hdecides.eq_opened (hhere ▸ hopened)
    · exact hreturns _ (.inr (.inr (.inr (Sight.exists_late hpause hclock timeout))))
  · obtain ⟨rfl, hmade, hspawned, hconcludes⟩ := (attempt_of_runs hrun).concludes hwatch
    intro hshows
    obtain ⟨n, hreturned, hstage⟩ := hshows.exists_verdict d
    refine ⟨rfl, hmade, hspawned, n, hreturned, ?_⟩
    rw [hstage]
    exact hconcludes

/-! A shell that exits without having opened its script. When this is seen, its time is over. -/

def sampleSights : Nat → Sight
  | 0 => ⟨.error (.refused .noReader), none, ⟨0⟩⟩
  | _ + 1 => ⟨.error (.refused .noReader), some (.code 3), ⟨10⟩⟩

/-- The answers of a system on which this is to be seen. -/
def answerExited : (c : Call) → c.Answer
  | .watch .. => Watch.looks sampleSights 2
  | .exitOf _ => some (Exit.code 3)
  | c => (PlainSystem.ofShell true).answer c

/-- The second look ends the loop. The exit counts and not the time, and the shell is given up. -/
theorem startSession_ends_at_first_decision_exited_late :
    let trace := sampleBusyDriver.startSession.traceWith (fun c _ ↦ ((), answerExited c)) ()
    let w := Watch.after sampleSights sampleNextPipe ⟨5⟩ 6
    let failure := SessionError.pipeNotOpened sampleNextPipe (.exited (.code 3))
    Runs sampleBusyDriver.startSession trace (.error failure) ∧ w.hasReturned = true ∧
      w.look = 1 ∧ w.tries = 2 ∧ w.stage = .failed failure ∧
        IsLeast {k | (sampleSights k).IsDecisive ⟨5⟩} 1 ∧
          IsGivenUp trace ⟨.watch 0 sampleNextPipe ⟨5⟩, Watch.looks sampleSights 2⟩ 0 := by
  intro trace w failure
  obtain ⟨hloop, hstart⟩ := Driver.startSession_ends_at_first_decision sampleSights
  obtain ⟨hfirst, htries, -⟩ := (hloop sampleNextPipe ⟨5⟩).1 6 rfl
  have hrun : Runs sampleBusyDriver.startSession trace (.error failure) :=
    runs_runWith (fun c _ ↦ ((), answerExited c)) sampleBusyDriver.startSession ()
  have hwatch : ⟨.watch 0 sampleNextPipe ⟨5⟩, Watch.looks sampleSights 2⟩ ∈ trace :=
    List.mem_iff_getElem?.mpr ⟨4, rfl⟩
  obtain ⟨-, -, -, n, -, hconcludes⟩ := hstart sampleBusyDriver trace _ hrun 0 sampleNextPipe ⟨5⟩ _
    hwatch ⟨6, 2, rfl, by decide, rfl⟩
  refine ⟨hrun, rfl, rfl, htries, rfl, hfirst, ?_⟩
  generalize (Watch.after sampleSights sampleNextPipe ⟨5⟩ n).stage = stage at hconcludes
  cases hconcludes with
  | failed _ hgiven => exact hgiven

end ShellDebugger
