/-!
# Results

When a computation that may fail has a value.
-/

namespace ShellDebugger

variable {ε α β : Type}

theorem bind_eq_ok_iff {x : Except ε α} {f : α → Except ε β} {result : β} :
    x >>= f = .ok result ↔ ∃ value, x = .ok value ∧ f value = .ok result := by
  cases x with
  | error e => exact ⟨nofun, nofun⟩
  | ok value =>
    constructor
    · intro h
      exact ⟨value, rfl, h⟩
    · rintro ⟨_, ⟨⟩, h⟩
      exact h

theorem mapError_eq_ok_iff {ε' : Type} {x : Except ε α} {f : ε → ε'} {value : α} :
    x.mapError f = .ok value ↔ x = .ok value := by
  cases x with
  | error e => exact ⟨nofun, nofun⟩
  | ok _ => exact ⟨fun h ↦ by cases h; rfl, fun h ↦ by cases h; rfl⟩

theorem mapError_eq_error_iff {ε' : Type} {x : Except ε α} {f : ε → ε'} {e' : ε'} :
    x.mapError f = .error e' ↔ ∃ e, x = .error e ∧ f e = e' := by
  cases x with
  | error e => exact ⟨fun h ↦ by cases h; exact ⟨e, rfl, rfl⟩, by rintro ⟨_, ⟨⟩, rfl⟩; rfl⟩
  | ok value => exact ⟨nofun, nofun⟩

theorem toOption_eq_some_iff {x : Except ε α} {value : α} :
    x.toOption = some value ↔ x = .ok value := by
  cases x with
  | error e => exact ⟨nofun, nofun⟩
  | ok _ => exact ⟨fun h ↦ by cases h; rfl, fun h ↦ by cases h; rfl⟩

end ShellDebugger
