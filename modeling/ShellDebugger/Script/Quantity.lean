import ShellDebugger.Number.Binary64
import ShellDebugger.Script.Arithmetic

/-!
# Quantities

The numbers with fractions that arguments write: decimal or hexadecimal digits with a point and a
power of ten or of two, or the words for what is no finite number.
-/

namespace ShellDebugger.Script

/-- A number with a fraction, or none that is finite. -/
inductive Quantity where
  | finite (x : Binary64)
  | infinite (negative : Bool)
  | undefined (negative : Bool)
  deriving Repr

namespace Quantity

/-- A quantity at the start of a text, what follows it, and whether it is within bounds. -/
structure Found where
  quantity : Quantity
  rest : Text
  isInRange : Bool

/-- The exponent behind a letter at the start of a text, if it has digits, and what follows. -/
def exponentAt (letter : Char) (text : Text) : Int × Text :=
  let (negative, digits) : Bool × Text := match text with
    | _ :: '-' :: rest => (true, rest)
    | _ :: '+' :: rest => (false, rest)
    | _ :: rest => (false, rest)
    | [] => (false, [])
  let used := digits.takeWhile Char.isDigit
  match text.head?.any (·.toLower == letter), Arithmetic.digits? 10 used with
  | true, some n => (if negative then -(n : Int) else n, digits.drop used.length)
  | _, _ => (0, text)

/-- The greatest power that is computed. Beyond it every number is out of bounds. -/
def greatestPower : Int := 5000

/-- The number nearest to `digits * base ^ power`. It is out of bounds if it is too great, or if it
is not exact and has not all the digits of the format. -/
def nearest (negative : Bool) (digits base : Nat) (power : Int) (rest : Text) : Found :=
  let (n, d) : Nat × Nat := match max (-greatestPower) (min greatestPower power) with
    | .ofNat e => (digits * Nat.pow base e, 1)
    | .negSucc e => (digits, Nat.pow base (e + 1))
  match Binary64.ofQuotient negative n d with
  | some x =>
    let (a, b) := x.quotient
    ⟨.finite x, rest, Binary64.significandBound ≤ 2 * x.significand || a * d == n * b⟩
  | none => ⟨.infinite negative, rest, false⟩

/-- The number that digits of a base write with a point among them at the start of a text. Each
digit behind the point counts for `perDigit` of the powers of `unit` that a letter stands before. -/
def digitsAt (negative : Bool) (base unit : Nat) (perDigit : Int) (letter : Char) (text : Text) :
    Option Found :=
  let isDigit (c : Char) : Bool := (Arithmetic.digit? base c).isSome
  let whole := text.takeWhile isDigit
  let behind := text.drop whole.length
  let fraction := match behind with
    | '.' :: rest => rest.takeWhile isDigit
    | _ => []
  let rest := if behind.head? = some '.' then behind.drop (fraction.length + 1) else behind
  match Arithmetic.digits? base (whole ++ fraction) with
  | none => none
  | some n =>
    let (power, rest) := exponentAt letter rest
    some (nearest negative n unit (power - perDigit * fraction.length) rest)

/-- Whether a text begins with a word in small or large letters, and what follows. -/
def wordAt? (word : String) (text : Text) : Option Text :=
  if (text.take word.length).map Char.toLower = word.toList then some (text.drop word.length)
  else none

/-- The quantity at the start of a text, behind blanks and a sign. Zero stands at the start of a
text that has none. -/
def find (text : Text) : Found :=
  let start := text.dropWhile Arithmetic.isSpace
  let (negative, unsigned) : Bool × Text := match start with
    | '-' :: rest => (true, rest)
    | '+' :: rest => (false, rest)
    | rest => (false, rest)
  let hexadecimal := (wordAt? "0x" unsigned).bind (digitsAt negative 16 2 4 'p')
  let infinite := (wordAt? "infinity" unsigned).orElse fun _ ↦ wordAt? "inf" unsigned
  let decimal := digitsAt negative 10 10 1 'e' unsigned
  match hexadecimal.orElse (fun _ ↦ decimal), infinite, wordAt? "nan" unsigned with
  | some found, _, _ => found
  | none, some rest, _ => ⟨.infinite negative, rest, true⟩
  | none, none, some rest => ⟨.undefined negative, rest, true⟩
  | none, none, none => ⟨.finite (.zero false), text, true⟩

/-- The quantity that an argument writes, and whether the argument is that quantity. Behind a
quotation mark stands a character for its own number. -/
def ofArgument (argument : Text) : Quantity × Bool :=
  let ofChar (rest : Text) : Quantity × Bool :=
    ((nearest false (rest.headD '\x00').toNat 10 0 []).quantity, true)
  match argument with
  | '\'' :: rest | '"' :: rest => ofChar rest
  | _ =>
    let found := find argument
    (found.quantity, found.rest.isEmpty && found.isInRange)

end Quantity
end ShellDebugger.Script
