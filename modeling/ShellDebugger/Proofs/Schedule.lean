import Mathlib.Order.WellFounded
import ShellDebugger.Schedule

/-!
# Schedules that come to an end

Where every action brings a rank down, a party that can act has not had its last turn, and an
endless schedule that forgets nobody comes to a state in which nobody can act. Where every action
brings it down until a goal is met, and nobody comes to a standstill before, the goal is met.
-/

namespace ShellDebugger.Schedule

variable {τ σ : Type} {act : τ → σ → Option σ} {rank : σ → Nat} {turns : Nat → τ}

/-- Every action brings a rank down. -/
def Lowers (act : τ → σ → Option σ) (rank : σ → Nat) : Prop :=
  ∀ party s s', act party s = some s' → rank s' < rank s

/-- Every party has a turn again and again. -/
def IsFair (turns : Nat → τ) : Prop :=
  ∀ party n, ∃ m, n ≤ m ∧ turns m = party

/-- The state after the first turns of an endless schedule. -/
def playFirst (act : τ → σ → Option σ) (s : σ) (turns : Nat → τ) (n : Nat) : σ :=
  play act s ((List.range n).map turns)

theorem playFirst_succ (s : σ) (turns : Nat → τ) (n : Nat) :
    playFirst act s turns (n + 1) = turn act (playFirst act s turns n) (turns n) := by
  simp only [playFirst, List.range_succ, List.map_append, play_append]
  rfl

/-- A turn changes nothing, or brings the rank down. -/
theorem Lowers.turn_cases (h : Lowers act rank) (s : σ) (party : τ) :
    turn act s party = s ∨ rank (turn act s party) < rank s := by
  unfold turn
  cases hact : act party s with
  | none => exact .inl rfl
  | some s' => exact .inr (h party s s' hact)

/-- While the rank stays where it was, so does the state. -/
theorem Lowers.playFirst_eq (h : Lowers act rank) {s : σ} {n m : Nat} (hle : n ≤ m)
    (hleast : ∀ k, rank (playFirst act s turns n) ≤ rank (playFirst act s turns k)) :
    playFirst act s turns m = playFirst act s turns n := by
  induction m, hle using Nat.le_induction with
  | base => rfl
  | succ m _ ih =>
    have hnext := hleast (m + 1)
    rw [playFirst_succ, ih] at hnext ⊢
    exact (h.turn_cases _ _).resolve_right (Nat.not_lt.mpr hnext)

/-- An endless schedule comes to a state in which nobody can act who has a turn again and again. -/
theorem Lowers.exists_waiting (h : Lowers act rank) (turns : Nat → τ) (s : σ) :
    ∃ n, ∀ party, (∀ k, ∃ m, k ≤ m ∧ turns m = party) →
      act party (playFirst act s turns n) = none := by
  -- Nobody who has another turn can act in a state of the least rank that the schedule comes to.
  obtain ⟨n, hleast⟩ : ∃ n, ∀ m, rank (playFirst act s turns n) ≤ rank (playFirst act s turns m) :=
    ⟨_, fun m ↦ Function.argmin_le (fun n ↦ rank (playFirst act s turns n)) m⟩
  refine ⟨n, fun party hagain ↦ ?_⟩
  obtain ⟨m, hle, rfl⟩ := hagain n
  cases hact : act (turns m) (playFirst act s turns n) with
  | none => rfl
  | some s' =>
    have hlower := h _ _ _ hact
    have hnext := hleast (m + 1)
    rw [playFirst_succ, h.playFirst_eq hle hleast, turn, hact] at hnext
    exact absurd hlower (Nat.not_lt.mpr hnext)

/-- An endless schedule that forgets nobody comes to a state in which nobody can act. -/
theorem Lowers.exists_isOver (h : Lowers act rank) (hfair : IsFair turns) (s : σ) :
    ∃ n, IsOver act (playFirst act s turns n) := by
  obtain ⟨n, hwaiting⟩ := h.exists_waiting turns s
  exact ⟨n, fun party ↦ hwaiting party (hfair party)⟩

/-! ## Up to a goal -/

variable {goal : σ → Prop} [DecidablePred goal]

/-- The parties act until a goal is met. -/
def actUntil (goal : σ → Prop) [DecidablePred goal] (act : τ → σ → Option σ) (party : τ) (s : σ) :
    Option σ :=
  if goal s then none else act party s

/-- As long as the goal is not met, it makes no difference. -/
theorem playFirst_actUntil {s : σ} (hnever : ∀ n, ¬ goal (playFirst act s turns n)) (n : Nat) :
    playFirst (actUntil goal act) s turns n = playFirst act s turns n := by
  induction n with
  | zero => rfl
  | succ n ih => rw [playFirst_succ, playFirst_succ, ih, turn, turn, actUntil, if_neg (hnever n)]

/-- An endless schedule that forgets nobody meets a goal, if only those who have met it come to a
standstill. -/
theorem Lowers.exists_goal (h : Lowers (actUntil goal act) rank) (hfair : IsFair turns) {s : σ}
    (hbusy : ∀ schedule, IsOver act (play act s schedule) → goal (play act s schedule)) :
    ∃ n, goal (playFirst act s turns n) := by
  by_contra hnever
  rw [not_exists] at hnever
  obtain ⟨n, hover⟩ := h.exists_isOver hfair s
  refine hnever n (hbusy _ fun party ↦ ?_)
  have hnone := hover party
  rwa [playFirst_actUntil hnever, actUntil, if_neg (hnever n)] at hnone

end ShellDebugger.Schedule
