import ShellDebugger.Number.Binary64
import ShellDebugger.Script.Quantity

/-!
# Formatted text

What `echo` and `printf` print.
-/

namespace ShellDebugger.Script.Format

/-- The character of a backslash escape at the start of a text. -/
def escaped? (text : Text) : Option (Char × Text) :=
  match text with
  | 'a' :: rest => some ('\x07', rest)
  | 'b' :: rest => some ('\x08', rest)
  | 'e' :: rest => some ('\x1b', rest)
  | 'f' :: rest => some ('\x0c', rest)
  | 'n' :: rest => some ('\n', rest)
  | 'r' :: rest => some ('\r', rest)
  | 't' :: rest => some ('\t', rest)
  | 'v' :: rest => some ('\x0b', rest)
  | '\\' :: rest => some ('\\', rest)
  | c :: rest =>
    let digits := ((c :: rest).take 3).takeWhile fun d ↦ '0' ≤ d ∧ d ≤ '7'
    if digits.isEmpty then none
    else
      let n := digits.foldl (fun n d ↦ n * 8 + (d.toNat - '0'.toNat)) 0
      some (Char.ofNat (n % 256), (c :: rest).drop digits.length)
  | [] => none

/-- Reads the backslash escapes of a text. The flag says whether printing ends there. -/
def unescape (read : Text) : Text → Nat → Text × Bool
  | _, 0 => (read.reverse, false)
  | [], _ => (read.reverse, false)
  | '\\' :: 'c' :: _, _ => (read.reverse, true)
  | '\\' :: '0' :: rest, fuel + 1 =>
    let digits := (rest.take 3).takeWhile fun d ↦ '0' ≤ d ∧ d ≤ '7'
    let n := digits.foldl (fun n d ↦ n * 8 + (d.toNat - '0'.toNat)) 0
    unescape (Char.ofNat (n % 256) :: read) (rest.drop digits.length) fuel
  | '\\' :: rest, fuel + 1 =>
    match escaped? rest with
    | some (c, rest) => unescape (c :: read) rest fuel
    | none => unescape ('\\' :: read) rest fuel
  | c :: rest, fuel + 1 => unescape (c :: read) rest fuel

def echo (arguments : List Text) : Text :=
  let (words, lineEnd) : List Text × Text := match arguments with
    | ['-', 'n'] :: rest => (rest, [])
    | words => (words, ['\n'])
  let text := [' '].intercalate words
  match unescape [] text (text.length + 1) with
  | (text, true) => text
  | (text, false) => text ++ lineEnd

structure Layout where
  left : Bool
  zeros : Bool
  plus : Bool
  space : Bool
  alternate : Bool
  width : Nat
  precision : Option Nat

/-- A text with blanks, or with zeros if it may have them, up to its width. -/
def Layout.pad (l : Layout) (sign body : Text) (mayHaveZeros : Bool) : Text :=
  let missing := l.width - sign.length - body.length
  if l.left then sign ++ body ++ List.replicate missing ' '
  else if l.zeros ∧ mayHaveZeros then sign ++ List.replicate missing '0' ++ body
  else List.replicate missing ' ' ++ sign ++ body

/-- Digits behind a sign, with zeros up to their width if there is no precision. -/
def Layout.padDigits (l : Layout) (sign body : Text) : Text :=
  l.pad sign body l.precision.isNone

def Layout.sign (l : Layout) (negative : Bool) : Text :=
  if negative then ['-'] else if l.plus then ['+'] else if l.space then [' '] else []

def Layout.digits (l : Layout) (n base : Nat) : Text :=
  let digits := Nat.toDigits base n
  let digits := if n = 0 ∧ l.precision = some 0 then [] else digits
  List.replicate ((l.precision.getD 0) - digits.length) '0' ++ digits

/-- The number at the start of a text, in decimal, octal or hexadecimal digits with a sign or
without, and the text behind it. -/
def numberAt (text : Text) : Int × Text :=
  let start := text.dropWhile Arithmetic.isSpace
  let (negative, unsigned) : Bool × Text := match start with
    | '-' :: rest => (true, rest)
    | '+' :: rest => (false, rest)
    | rest => (false, rest)
  let isHex (c : Char) : Bool := (Arithmetic.digit? 16 c).isSome
  let (base, digits) : Nat × Text := match unsigned with
    | '0' :: x :: c :: rest =>
      if (x = 'x' ∨ x = 'X') ∧ isHex c then (16, c :: rest) else (8, unsigned)
    | '0' :: _ => (8, unsigned)
    | _ => (10, unsigned)
  let used := digits.takeWhile fun c ↦ (Arithmetic.digit? base c).isSome
  match Arithmetic.digits? base used with
  | none => (0, text)
  | some n => (if negative then -(n : Int) else n, digits.drop used.length)

/-- The number that an argument writes, brought between bounds, and whether the argument is that
number. Behind a quotation mark stands a character for its own number; nothing stands for zero. -/
def numberOf (least greatest : Int) (argument : Text) : Int × Bool :=
  match argument with
  | '\'' :: rest => ((rest.headD '\x00').toNat, true)
  | '"' :: rest => ((rest.headD '\x00').toNat, true)
  | _ =>
    let (n, rest) := numberAt argument
    (max least (min greatest n), rest.isEmpty && least ≤ n && n ≤ greatest)

def signedOf (argument : Text) : Int × Bool :=
  numberOf (-0x8000000000000000) 0x7FFFFFFFFFFFFFFF argument

/-- The unsigned number that an argument writes; a negative one wraps around, and one that is out of
bounds is the greatest. -/
def unsignedOf (argument : Text) : Nat × Bool :=
  let (n, good) := numberOf (-Numeral.bound) Numeral.bound argument
  if n.natAbs = Numeral.bound then (Numeral.bound - 1, false)
  else ((n % Numeral.bound).toNat, good)

/-- A quantity as a conversion lays it out, with six places unless it says otherwise. -/
def Layout.quantity (l : Layout) (conversion : Char) (quantity : Quantity) : Text :=
  let precision := l.precision.getD 6
  match quantity with
  | .infinite negative => l.pad (l.sign negative) "inf".toList false
  | .undefined negative => l.pad (l.sign negative) "nan".toList false
  | .finite x =>
    let body := match conversion with
      | 'e' => RoundedDecimal.scientific x precision l.alternate
      | 'f' => RoundedDecimal.fixed x precision l.alternate
      | _ => RoundedDecimal.general x precision l.alternate
    l.pad (l.sign x.negative) body true

/-- A formatted argument, whether it was good, and whether printing ends there. -/
def convert (l : Layout) (conversion : Char) (argument : Text) : Option (Text × Bool × Bool) :=
  let short (text : Text) : Text := (l.precision.map text.take).getD text
  match conversion with
  | 's' => some (l.pad [] (short argument) false, true, false)
  | 'c' => some (l.pad [] [argument.headD '\x00'] false, true, false)
  | 'b' =>
    let (text, ends) := unescape [] argument (argument.length + 1)
    some (l.pad [] (short text) false, true, ends)
  | 'd' | 'i' =>
    let (n, good) := signedOf argument
    some (l.padDigits (l.sign (n < 0)) (l.digits n.natAbs 10), good, false)
  | 'u' =>
    let (n, good) := unsignedOf argument
    some (l.padDigits [] (l.digits n 10), good, false)
  | 'o' =>
    let (n, good) := unsignedOf argument
    let sign : Text := if l.alternate ∧ n ≠ 0 then ['0'] else []
    some (l.padDigits sign (l.digits n 8), good, false)
  | 'x' =>
    let (n, good) := unsignedOf argument
    let sign : Text := if l.alternate ∧ n ≠ 0 then ['0', 'x'] else []
    some (l.padDigits sign (l.digits n 16), good, false)
  | 'X' =>
    let (n, good) := unsignedOf argument
    let sign : Text := if l.alternate ∧ n ≠ 0 then ['0', 'X'] else []
    some (l.padDigits sign ((l.digits n 16).map Char.toUpper), good, false)
  | 'e' | 'E' | 'f' | 'F' | 'g' | 'G' =>
    let (quantity, good) := Quantity.ofArgument argument
    let text := l.quantity conversion.toLower quantity
    some (if conversion.isUpper then text.map Char.toUpper else text, good, false)
  | _ => none

def flags (l : Layout) : Text → Layout × Text
  | '-' :: rest => flags { l with left := true } rest
  | '0' :: rest => flags { l with zeros := true } rest
  | '+' :: rest => flags { l with plus := true } rest
  | ' ' :: rest => flags { l with space := true } rest
  | '#' :: rest => flags { l with alternate := true } rest
  | rest => (l, rest)

/-- A number of a conversion that was read, with what is left of the format and the arguments. -/
structure Size where
  value : Int
  rest : Text
  arguments : List Text
  /-- Whether an argument that was to be the number was one. -/
  isGood : Bool

/-- Reads a number of a conversion, of which 32 bits count. A star takes it from the arguments. -/
def Size.read (text : Text) (arguments : List Text) : Size :=
  match text with
  | '*' :: rest =>
    let (n, isGood) := signedOf (arguments.headD ['0'])
    ⟨Int.bmod n 0x100000000, rest, arguments.drop 1, isGood⟩
  | _ =>
    let digits := text.takeWhile Char.isDigit
    ⟨((Arithmetic.digits? 10 digits).getD 0 : Nat), text.drop digits.length, arguments, true⟩

structure Pass where
  /-- The printed text, last character first. -/
  printed : Text
  arguments : List Text
  /-- Whether an argument was taken. -/
  took : Bool
  /-- 1 if an argument was bad, and 2 if the format is. -/
  status : Nat
  /-- Whether printing ends. -/
  ends : Bool

def pass (p : Pass) : Text → Nat → Pass
  | _, 0 => p
  | [], _ => p
  | '%' :: '%' :: rest, fuel + 1 => pass { p with printed := '%' :: p.printed } rest fuel
  | '%' :: rest, fuel + 1 =>
    let (l, rest) := flags ⟨false, false, false, false, false, 0, none⟩ rest
    let width := Size.read rest p.arguments
    let l := { l with width := width.value.natAbs, left := l.left || width.value < 0 }
    let precision : Option Size := match width.rest with
      | '.' :: rest => some (Size.read rest width.arguments)
      | _ => none
    let l := { l with precision := (precision.map (·.value)).bind fun n ↦
      if n < 0 then none else some n.toNat }
    let last := precision.getD width
    match last.rest with
    | [] => { p with status := 2, ends := true }
    | c :: rest =>
      match convert l c (last.arguments.headD []) with
      | none => { p with status := 2, ends := true }
      | some (text, good, ends) =>
        let status := if width.isGood && last.isGood && good then p.status else 1
        let p : Pass := ⟨text.reverse ++ p.printed, last.arguments.drop 1, true, status, ends⟩
        if ends then p else pass p rest fuel
  | '\\' :: rest, fuel + 1 =>
    match escaped? rest with
    | some (c, rest) => pass { p with printed := c :: p.printed } rest fuel
    | none => pass { p with printed := '\\' :: p.printed } rest fuel
  | c :: rest, fuel + 1 => pass { p with printed := c :: p.printed } rest fuel

def passes (format : Text) (p : Pass) : Nat → Pass
  | 0 => p
  | fuel + 1 =>
    let q := pass { p with took := false } format (format.length + 1)
    if q.ends ∨ !q.took ∨ q.arguments.isEmpty then q else passes format q fuel

def printf (format : Text) (arguments : List Text) : Text × Nat :=
  let p := passes format ⟨[], arguments, false, 0, false⟩ (arguments.length + 1)
  (p.printed.reverse, p.status)

end ShellDebugger.Script.Format
