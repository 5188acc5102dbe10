import ShellDebugger.Number.Binary64
import ShellDebugger.Text.Numeral

/-!
# JSON values

An object is a list of members, each key once. `get?` looks a member up and `put` sets one;
`overlay` lays one value over another, member by member as long as both are objects.

A numeral without fraction and exponent is an integer if it fits 64 bits, with or without a sign.
Every other numeral is floating: its digits, up to the last that keeps them below `2 ^ 64`, are
rounded to a floating-point number, which is then multiplied or divided by a power of ten and
rounded again. A numeral whose number is too large is refused.
-/

namespace ShellDebugger

/-- A JSON value. A number without fraction and exponent that fits 64 bits is an integer. -/
inductive Json where
  | null
  | boolean (value : Bool)
  | integer (value : Int)
  | floating (value : Binary64)
  | text (value : String)
  | array (elements : List Json)
  | object (members : List (String × Json))
  deriving Repr, Inhabited

namespace Json

/-- Sets a member, where it stands if it is there and else at the end. -/
def put (key : String) (value : Json) : List (String × Json) → List (String × Json)
  | [] => [(key, value)]
  | (k, v) :: rest => if k = key then (k, value) :: rest else (k, v) :: put key value rest

def members : Json → List (String × Json)
  | .object members => members
  | _ => []

def get? (key : String) (value : Json) : Option Json :=
  value.members.lookup key

def at? : List String → Json → Option Json
  | [], value => some value
  | key :: path, value => (value.get? key).bind (at? path)

mutual

/-- Lays a value over another. An object over an object sets its members, each laid over what was
there; anything else takes the place of what was there. -/
def overlay (base : Json) : Json → Json
  | .object upper =>
    match base with
    | .object members => .object (overlayMembers members upper)
    | _ => .object upper
  | upper => upper

def overlayMembers (base : List (String × Json)) : List (String × Json) → List (String × Json)
  | [] => base
  | (key, value) :: rest =>
    overlayMembers (put key (overlay ((base.lookup key).getD .null) value) base) rest

end

end Json

/-! ## Numbers -/

namespace JsonNumber

/-- The digits at the start of a text as numbers, and what follows them. -/
def digits : List Char → List Nat × List Char
  | [] => ([], [])
  | c :: rest =>
    if '0' ≤ c ∧ c ≤ '9' then
      let (ds, rest) := digits rest
      ((c.toNat - '0'.toNat) :: ds, rest)
    else ([], c :: rest)

/-- Reads digits onto a significand as long as that stays below `2 ^ 64`: the significand, and the
number of digits left over. -/
def significandFrom (read : Nat) : List Nat → Nat × Nat
  | [] => (read, 0)
  | d :: rest =>
    if read * 10 + d < Numeral.bound then significandFrom (read * 10 + d) rest
    else (read, rest.length + 1)

def powerOfTen (n : Nat) : Binary64 :=
  (Binary64.ofQuotient false (Nat.pow 10 n) 1).getD (.zero false)

def greatestPower : Nat := 308

/-- Divides by a power of ten in steps that are numbers themselves. -/
def divideByPower (x : Binary64) (n : Nat) : Option Binary64 :=
  if n ≤ greatestPower then x.div (powerOfTen n)
  else if x.significand = 0 then some x
  else do divideByPower (← x.div (powerOfTen greatestPower)) (n - greatestPower)
termination_by n
decreasing_by simp only [greatestPower] at *; omega

/-- The number `significand * 10 ^ exponent`, `none` if it is too large. -/
def scale (significand : Nat) (exponent : Int) : Option Binary64 := do
  let x ← Binary64.ofQuotient false significand 1
  match exponent with
  | .ofNat n =>
    if n ≤ greatestPower then x.mul (powerOfTen n)
    else if significand = 0 then some x
    else none
  | .negSucc n => divideByPower x (n + 1)

/-- The greatest exponent that a numeral may write without being cut off. -/
def exponentLimit : Nat := 0x7FFFFFFF

def clampExponent (e : Int) : Int :=
  max (-exponentLimit - 1) (min e exponentLimit)

/-- Reads the exponent of a numeral, if there is one: the exponent, nothing if it is out of all
range, and what follows. Refuses an exponent without digits. -/
def exponent : List Char → Option (Option Int × Bool × List Char)
  | [] => some (some 0, false, [])
  | c :: rest =>
    if c = 'e' ∨ c = 'E' then
      let (negative, rest) : Bool × List Char := match rest with
        | '-' :: rest => (true, rest)
        | '+' :: rest => (false, rest)
        | rest => (false, rest)
      match digits rest with
      | ([], _) => none
      | (ds, rest) =>
        let n := ds.foldl (fun n d ↦ n * 10 + d) 0
        if exponentLimit < n then some (none, negative, rest)
        else some (some (if negative then -(n : Int) else n), negative, rest)
    else some (some 0, false, c :: rest)

/-- Reads the digits behind the point of a numeral, if there is one: the digits, and what follows.
Refuses a point without digits. -/
def fraction : List Char → Option (Option (List Nat) × List Char)
  | '.' :: rest =>
    match digits rest with
    | ([], _) => none
    | (ds, rest) => some (some ds, rest)
  | rest => some (none, rest)

/-- Reads the exponent of a numeral that is no integer and makes its number. Of the digits before
the point, `dropped` are not in the significand. -/
def floating (negative : Bool) (significand dropped : Nat) (fraction : Option (List Nat))
    (text : List Char) : Option (Binary64 × List Char) := do
  let (significand, places) : Nat × Int := match fraction with
    | none => (significand, dropped)
    | some ds =>
      let (s, left) := significandFrom significand ds
      (s, (dropped : Int) - (ds.length - left : Nat))
  let (power, negativePower, rest) ← exponent text
  let value ← match power with
    | some power => scale significand (clampExponent (places + power))
    | none => if significand = 0 ∨ negativePower then some (.zero false) else none
  return ({ value with negative := negative }, rest)

/-- Reads a numeral after its sign: the number without its sign, and what follows. -/
def unsigned (negative : Bool) (text : List Char) : Option (Json × List Char) := do
  let (whole, rest) := digits text
  if whole = [] ∨ (whole.head? = some 0 ∧ 1 < whole.length) then none
  else
    let (significand, dropped) := significandFrom 0 whole
    let (fraction, rest) ← fraction rest
    let isInteger := fraction.isNone ∧ dropped = 0 ∧ rest.head? ≠ some 'e' ∧ rest.head? ≠ some 'E'
    if isInteger ∧ (!negative ∨ (0 < significand ∧ significand ≤ Numeral.bound / 2)) then
      return (.integer (if negative then -(significand : Int) else significand), rest)
    else
      let (value, rest) ← floating negative significand dropped fraction rest
      return (.floating value, rest)

def read : List Char → Option (Json × List Char)
  | '-' :: rest => unsigned true rest
  | text => unsigned false text

end JsonNumber
end ShellDebugger
