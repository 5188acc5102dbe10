/-!
# Schedules

Parties that act in turns on one shared state. A schedule says who has the next turn and is not
bound to anything; a party that has to wait, or has nothing left to do, lets its turn pass. What
holds at the start and is kept by every action therefore holds under every schedule.
-/

namespace ShellDebugger.Schedule

variable {τ σ : Type}

def turn (act : τ → σ → Option σ) (s : σ) (party : τ) : σ :=
  (act party s).getD s

def play (act : τ → σ → Option σ) (s : σ) (schedule : List τ) : σ :=
  schedule.foldl (turn act) s

/-- Nobody can act any more. -/
def IsOver (act : τ → σ → Option σ) (s : σ) : Prop :=
  ∀ party, act party s = none

variable {act : τ → σ → Option σ}

@[simp] theorem play_nil (s : σ) : play act s [] = s := rfl

@[simp] theorem play_cons (s : σ) (party : τ) (rest : List τ) :
    play act s (party :: rest) = play act (turn act s party) rest := rfl

theorem play_append (s : σ) (first rest : List τ) :
    play act s (first ++ rest) = play act (play act s first) rest :=
  List.foldl_append

/-- What every action keeps holds after every schedule. -/
theorem play_invariant {P : σ → Prop}
    (hact : ∀ party s s', P s → act party s = some s' → P s') {s : σ} (hs : P s)
    (schedule : List τ) : P (play act s schedule) := by
  induction schedule generalizing s with
  | nil => exact hs
  | cons party rest ih =>
    apply ih
    unfold turn
    cases hturn : act party s with
    | none => exact hs
    | some s' => exact hact party s s' hs hturn

end ShellDebugger.Schedule
