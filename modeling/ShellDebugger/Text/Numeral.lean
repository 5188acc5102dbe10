/-!
# Decimal numerals

Unsigned numbers of 64 bits in text: an optional plus sign and one or more ASCII digits. A text
that is none fails for one of three reasons.
-/

namespace ShellDebugger.Numeral

/-- One more than the largest number that a numeral may have. -/
def bound : Nat := 0x10000000000000000

inductive Failure where
  | empty
  | invalidDigit
  | tooLarge
  deriving DecidableEq, Repr

def Failure.message : Failure → String
  | .empty => "cannot parse integer from empty string"
  | .invalidDigit => "invalid digit found in string"
  | .tooLarge => "number too large to fit in target type"

def digit? (c : Char) : Option Nat :=
  if '0' ≤ c ∧ c ≤ '9' then some (c.toNat - '0'.toNat) else none

/-- Reads digits from left to right onto the number `read` before them. The first fault counts: a
number that grows too large is reported before a bad digit further on. -/
def digitsFrom (read : Nat) : List Char → Except Failure Nat
  | [] => .ok read
  | c :: rest =>
    match digit? c with
    | none => .error .invalidDigit
    | some d =>
      if read * 10 + d < bound then digitsFrom (read * 10 + d) rest else .error .tooLarge

def ofChars : List Char → Except Failure Nat
  | [] => .error .empty
  | ['+'] => .error .invalidDigit
  | '+' :: digits => digitsFrom 0 digits
  | digits => digitsFrom 0 digits

def parse (text : String) : Except Failure Nat :=
  ofChars text.toList

def parse? (text : String) : Option Nat :=
  (parse text).toOption

def digitCount (n : Nat) : Nat :=
  (Nat.toDigits 10 n).length

/-- A number in decimal, with blanks before it up to `width` columns. -/
def rightAligned (width n : Nat) : String :=
  let digits := Nat.toDigits 10 n
  String.ofList (List.replicate (width - digits.length) ' ' ++ digits)

end ShellDebugger.Numeral
