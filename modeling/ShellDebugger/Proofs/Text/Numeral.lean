import Mathlib.Algebra.Group.Nat.Defs
import Mathlib.Order.Bounds.Defs
import ShellDebugger.Text.Numeral

/-!
# Digits of numbers

The number of decimal digits of a number is the least width, of one column or more, that holds all
numbers up to it. So a column that is wide enough for a number is wide enough for those below.

Digits that are read have their decimal value, however many they are, and a text is read as a number
if and only if it is digits, after at most one plus sign, of a value of 64 bits.
-/

namespace ShellDebugger.Numeral

/-! ## Widths -/

variable {m n width : Nat}

theorem one_le_digitCount (n : Nat) : 1 ≤ digitCount n :=
  Nat.length_toDigits_pos

theorem digitCount_le_iff (hwidth : 1 ≤ width) : digitCount n ≤ width ↔ n < 10 ^ width :=
  Nat.length_toDigits_le_iff (by decide) hwidth

theorem isLeast_digitCount (n : Nat) :
    IsLeast {width | 1 ≤ width ∧ n < 10 ^ width} (digitCount n) := by
  have hpos := one_le_digitCount n
  constructor
  · exact ⟨hpos, (digitCount_le_iff hpos).mp (Nat.le_refl _)⟩
  · rintro width ⟨hwidth, hlt⟩
    exact (digitCount_le_iff hwidth).mpr hlt

theorem digitCount_mono (h : m ≤ n) : digitCount m ≤ digitCount n := by
  have hlt : n < 10 ^ digitCount n := (isLeast_digitCount n).1.2
  rw [digitCount_le_iff (one_le_digitCount n)]
  exact Nat.lt_of_le_of_lt h hlt

/-! ## Reading -/

/-- A text is one or more digits of a value. -/
def HasDigits (text : List Char) (value : Nat) : Prop :=
  text ≠ [] ∧ (∀ c ∈ text, c.isDigit = true) ∧ Nat.ofDigitChars 10 text 0 = value

/-- A text is one or more digits of a value, after at most one plus sign. -/
def Denotes (text : List Char) (value : Nat) : Prop :=
  ∃ digits, (text = digits ∨ text = '+' :: digits) ∧ HasDigits digits value

variable {read value : Nat} {digits text : List Char}

theorem digit?_eq (c : Char) :
    digit? c = if c.isDigit = true then some (c.toNat - '0'.toNat) else none := by
  have hdigit : c.isDigit = true ↔ '0' ≤ c ∧ c ≤ '9' := by
    rw [Char.isDigit, Bool.and_eq_true, decide_eq_true_iff, decide_eq_true_iff]
    rfl
  simp only [digit?, hdigit]

/-- More digits do not make a number less. -/
theorem le_ofDigitChars (digits : List Char) (read : Nat) :
    read ≤ Nat.ofDigitChars 10 digits read := by
  induction digits generalizing read with
  | nil => exact Nat.le_refl read
  | cons c rest ih =>
    rw [Nat.ofDigitChars_cons]
    exact Nat.le_trans (by omega) (ih _)

/-- Digits are read to their end if and only if their value is not too large. -/
theorem digitsFrom_eq_ok_iff (hread : read < bound) :
    digitsFrom read digits = .ok value ↔
      ((∀ c ∈ digits, c.isDigit = true) ∧ Nat.ofDigitChars 10 digits read = value) ∧
        value < bound := by
  induction digits generalizing read with
  | nil =>
    rw [digitsFrom, Except.ok.injEq]
    constructor
    · rintro rfl
      exact ⟨⟨List.forall_mem_nil _, rfl⟩, hread⟩
    · rintro ⟨⟨-, rfl⟩, -⟩
      rfl
  | cons c rest ih =>
    rw [digitsFrom, digit?_eq, List.forall_mem_cons, Nat.ofDigitChars_cons, Nat.mul_comm]
    by_cases hdigit : c.isDigit = true
    · rw [if_pos hdigit, and_iff_right hdigit]
      by_cases hsmall : 10 * read + (c.toNat - '0'.toNat) < bound
      · rw [← ih hsmall]
        simp only [if_pos hsmall]
      · have hlarge := le_ofDigitChars rest (10 * read + (c.toNat - '0'.toNat))
        simp only [if_neg hsmall, reduceCtorEq, false_iff]
        rintro ⟨⟨-, rfl⟩, hvalue⟩
        exact hsmall (Nat.lt_of_le_of_lt hlarge hvalue)
    · simp [hdigit]

/-- Behind a plus sign there are digits only. -/
theorem denotes_plus_iff : Denotes ('+' :: digits) value ↔ HasDigits digits value := by
  constructor
  · rintro ⟨digits', rfl | hplus, hdigits⟩
    · exact absurd (hdigits.2.1 '+' List.mem_cons_self) (by decide)
    · cases hplus
      exact hdigits
  · exact fun hdigits ↦ ⟨digits, .inr rfl, hdigits⟩

/-- Without a plus sign there are digits only. -/
theorem denotes_iff_of_ne (hplus : ∀ rest, text ≠ '+' :: rest) :
    Denotes text value ↔ HasDigits text value := by
  constructor
  · rintro ⟨digits, rfl | hsign, hdigits⟩
    · exact hdigits
    · exact absurd hsign (hplus digits)
  · exact fun hdigits ↦ ⟨text, .inl rfl, hdigits⟩

/-- Digits that are there are read to their end. -/
theorem digitsFrom_zero_eq_ok_iff (hne : digits ≠ []) :
    digitsFrom 0 digits = .ok value ↔ HasDigits digits value ∧ value < bound := by
  rw [digitsFrom_eq_ok_iff (by decide), HasDigits, and_iff_right hne]

theorem ofChars_eq_ok_iff : ofChars text = .ok value ↔ Denotes text value ∧ value < bound := by
  unfold ofChars
  split
  · simp [Denotes, HasDigits]
  · simp [denotes_plus_iff, HasDigits]
  · next digits hne => rw [digitsFrom_zero_eq_ok_iff hne, denotes_plus_iff]
  · next hne _ hplus => rw [digitsFrom_zero_eq_ok_iff hne, denotes_iff_of_ne hplus]

/-- A text is read as the number that it denotes, if that has 64 bits. -/
theorem parse?_eq_some_iff {text : String} :
    parse? text = some value ↔ Denotes text.toList value ∧ value < bound := by
  rw [← ofChars_eq_ok_iff, parse?, parse]
  cases ofChars text.toList <;> simp [Except.toOption]

end ShellDebugger.Numeral
