/-!
# Binary floating-point numbers of 64 bits

The finite numbers of the format, held as a sign, a significand and a power of two, with the three
ways to come by one: rounding a quotient of natural numbers, a product, and a quotient. All are
computed on natural numbers and rounded to the nearest number of the format, a tie going to the
even significand. What is too large for the format is no number.

A number is written with the fewest decimal digits that read back as that number, and of those
the digits nearest to it. The reals that read back as a number form an interval around it, which
holds its own ends if and only if the significand is even; the digits are found by trying grids of
ever more digits, on each of which only the two points next to the number can be the first inside.
Or it is rounded to a number of decimal places, or to a number of digits, a tie going to the even
neighbour, and written positionally or with an exponent.
-/

namespace ShellDebugger

/-- A finite number: `significand * 2 ^ exponent`, negated if `negative`. The significand is below
`2 ^ 53`, and at least half of that unless the exponent is the least one. -/
structure Binary64 where
  negative : Bool
  significand : Nat
  exponent : Int
  deriving DecidableEq, Repr

namespace Binary64

/-- What a significand is below: `2 ^ 53`. -/
def significandBound : Nat := 0x20000000000000

def leastExponent : Int := -1074

def greatestExponent : Int := 971

def zero (negative : Bool) : Binary64 :=
  ⟨negative, 0, leastExponent⟩

/-- The quotient rounded to the nearest integer, a tie to the even one. -/
def roundDiv (numerator denominator : Nat) : Nat :=
  let quotient := numerator / denominator
  let rest := 2 * (numerator % denominator)
  if rest < denominator then quotient
  else if denominator < rest then quotient + 1
  else quotient + quotient % 2

/-- The quotient of `numerator` and `denominator * 2 ^ exponent`, as two natural numbers. -/
def scaled (numerator denominator : Nat) (exponent : Int) : Nat × Nat :=
  match exponent with
  | .ofNat shift => (numerator, denominator <<< shift)
  | .negSucc shift => (numerator <<< (shift + 1), denominator)

/-- The number nearest to a quotient, `none` if that is out of range. -/
def ofQuotient (negative : Bool) (numerator denominator : Nat) : Option Binary64 :=
  if numerator = 0 then some (zero negative)
  else
    let magnitude : Int := numerator.log2 - denominator.log2
    let low := max (magnitude - 53) leastExponent
    let (n, d) := scaled numerator denominator low
    let exponent := if significandBound ≤ n / d then low + 1 else low
    let (n, d) := scaled numerator denominator exponent
    let significand := roundDiv n d
    let (significand, exponent) :=
      if significand = significandBound then (significandBound / 2, exponent + 1)
      else (significand, exponent)
    if exponent ≤ greatestExponent then some ⟨negative, significand, exponent⟩ else none

def quotient (x : Binary64) : Nat × Nat :=
  match x.exponent with
  | .ofNat shift => (x.significand <<< shift, 1)
  | .negSucc shift => (x.significand, 1 <<< (shift + 1))

def mul (x y : Binary64) : Option Binary64 :=
  let (a, b) := x.quotient
  let (c, d) := y.quotient
  ofQuotient (x.negative != y.negative) (a * c) (b * d)

/-- The number nearest to a quotient of two numbers, the divisor not zero. -/
def div (x y : Binary64) : Option Binary64 :=
  let (a, b) := x.quotient
  let (c, d) := y.quotient
  ofQuotient (x.negative != y.negative) (a * d) (b * c)

end Binary64

/-! ## Shortest decimal text -/

/-- The decimal number `digits * 10 ^ exponent`. -/
structure DecimalDigits where
  digits : Nat
  exponent : Int
  deriving DecidableEq, Repr

namespace ShortestDecimal

/-- The greatest power of ten that is not above `numerator / denominator`, which is not zero. -/
def magnitude (numerator denominator : Nat) : Int :=
  ((Nat.toDigits 10 (numerator * Nat.pow 10 400 / denominator)).length : Int) - 401

/-- Whether `digits * 10 ^ exponent` reads back as `x`. Four times the significand has room for
the ends of the interval. -/
def readsBack (x : Binary64) (decimal : DecimalDigits) : Bool :=
  let (n, d) : Nat × Nat := match decimal.exponent with
    | .ofNat e => (4 * decimal.digits * Nat.pow 10 e, 1)
    | .negSucc e => (4 * decimal.digits, Nat.pow 10 (e + 1))
  let (n, d) : Nat × Nat := match x.exponent with
    | .ofNat e => (n, d <<< e)
    | .negSucc e => (n <<< (e + 1), d)
  let below :=
    if 2 * x.significand = Binary64.significandBound ∧ Binary64.leastExponent < x.exponent then 1
    else 2
  let low := (4 * x.significand - below) * d
  let high := (4 * x.significand + 2) * d
  if x.significand % 2 = 0 then low ≤ n && n ≤ high else low < n && n < high

/-- The nearest point to `x` on the grid of `10 ^ exponent`, if it or its neighbour reads back. -/
def onGrid? (x : Binary64) (exponent : Int) : Option DecimalDigits :=
  let (a, b) := x.quotient
  let (n, d) : Nat × Nat := match exponent with
    | .ofNat e => (a, b * Nat.pow 10 e)
    | .negSucc e => (a * Nat.pow 10 (e + 1), b)
  let lower : DecimalDigits := ⟨n / d, exponent⟩
  let upper : DecimalDigits := ⟨n / d + 1, exponent⟩
  let lowerFirst := 2 * (n % d) < d || (2 * (n % d) == d && n / d % 2 == 0)
  let candidates := if lowerFirst then [lower, upper] else [upper, lower]
  candidates.find? (readsBack x)

/-- Tries grids with ever more digits, `tries` of them, from the one of `10 ^ exponent` on. -/
def search (x : Binary64) (exponent : Int) : Nat → Option DecimalDigits
  | 0 => none
  | tries + 1 =>
    match onGrid? x exponent with
    | some decimal => some decimal
    | none => search x (exponent - 1) tries

/-- Moves trailing zeros of the digits into the exponent, `most` of them at most. -/
def trim (decimal : DecimalDigits) : Nat → DecimalDigits
  | 0 => decimal
  | most + 1 =>
    if decimal.digits ≠ 0 ∧ decimal.digits % 10 = 0 then
      trim ⟨decimal.digits / 10, decimal.exponent + 1⟩ most
    else decimal

/-- The fewest digits that read back as a number other than zero; 17 always do. -/
def ofBinary (x : Binary64) : DecimalDigits :=
  let (a, b) := x.quotient
  trim ((search x (magnitude a b) 18).getD ⟨0, 0⟩) 20

end ShortestDecimal

/-- Writes a number with a point or an exponent: positionally while the point stands among or at
most five places before the digits, or at most sixteen digits stand before it. An exponent has its
sign. -/
def Binary64.text (x : Binary64) : String :=
  let sign := if x.negative then "-" else ""
  if x.significand = 0 then s!"{sign}0.0"
  else
    let decimal := ShortestDecimal.ofBinary x
    let digits := Nat.toDigits 10 decimal.digits
    let point : Int := digits.length + decimal.exponent
    let body :=
      if 0 ≤ decimal.exponent ∧ point ≤ 16 then
        digits ++ List.replicate decimal.exponent.toNat '0' ++ ['.', '0']
      else if 0 < point ∧ point ≤ 16 then
        digits.take point.toNat ++ '.' :: digits.drop point.toNat
      else if -5 < point ∧ point ≤ 0 then
        '0' :: '.' :: List.replicate (-point).toNat '0' ++ digits
      else
        let mantissa := match digits with
          | [] => []
          | [d] => [d]
          | d :: rest => d :: '.' :: rest
        let power := point - 1
        mantissa ++ 'e' :: (if power < 0 then '-' else '+') :: Nat.toDigits 10 power.natAbs
    sign ++ String.ofList body

/-! ## Decimal digits by rounding -/

namespace RoundedDecimal

def padded (length n : Nat) : List Char :=
  let digits := Nat.toDigits 10 n
  List.replicate (length - digits.length) '0' ++ digits

/-- Digits with a point in front of the last `places`. There is no point without places, unless it
is `pointed`. -/
def withPoint (digits : List Char) (places : Nat) (pointed : Bool) : List Char :=
  let whole := digits.take (digits.length - places)
  if places = 0 then if pointed then whole ++ ['.'] else whole
  else whole ++ '.' :: digits.drop whole.length

/-- The magnitude of a number with a number of places behind the point. -/
def fixed (x : Binary64) (places : Nat) (pointed : Bool) : List Char :=
  let (a, b) := x.quotient
  withPoint (padded (places + 1) (Binary64.roundDiv (a * Nat.pow 10 places) b)) places pointed

/-- The magnitude of a number rounded to `places + 1` digits: the digits, and the power of ten of
the first. -/
def digitsOf (x : Binary64) (places : Nat) : Nat × Int :=
  if x.significand = 0 then (0, 0)
  else
    let (a, b) := x.quotient
    let power := ShortestDecimal.magnitude a b
    let digits := match (places : Int) - power with
      | .ofNat e => Binary64.roundDiv (a * Nat.pow 10 e) b
      | .negSucc e => Binary64.roundDiv a (b * Nat.pow 10 (e + 1))
    if digits = Nat.pow 10 (places + 1) then (digits / 10, power + 1) else (digits, power)

/-- Digits with a point behind the first and the power of ten of that, which has at least two
digits. -/
def withPower (digits : List Char) (power : Int) (pointed : Bool) : List Char :=
  let sign := if power < 0 then '-' else '+'
  withPoint digits (digits.length - 1) pointed ++ 'e' :: sign :: padded 2 power.natAbs

/-- The magnitude of a number with one digit before the point and a power of ten. -/
def scientific (x : Binary64) (places : Nat) (pointed : Bool) : List Char :=
  let (digits, power) := digitsOf x places
  withPower (padded (places + 1) digits) power pointed

/-- The magnitude of a number with a number of digits, with a power of ten if that is below -4 or
not below their number. Zeros at the end are left out unless it is `pointed`. -/
def general (x : Binary64) (digits : Nat) (pointed : Bool) : List Char :=
  let digits := max digits 1
  let (n, power) := digitsOf x (digits - 1)
  let isPositional := -4 ≤ power ∧ power < digits
  let all := padded digits n
  let all := if isPositional ∧ power < 0 then List.replicate (-power).toNat '0' ++ all else all
  let kept := if isPositional then (max power 0).toNat + 1 else 1
  let least := if pointed then all.length else kept
  let zeros := (all.drop least).reverse.takeWhile (· == '0')
  let all := all.take (all.length - zeros.length)
  if isPositional then withPoint all (all.length - kept) pointed else withPower all power pointed

end RoundedDecimal
end ShellDebugger
