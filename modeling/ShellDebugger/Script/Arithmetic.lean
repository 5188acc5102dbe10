import ShellDebugger.Script.Grammar
import ShellDebugger.Text.Numeral

/-!
# Arithmetic of scripts

Integer expressions with the operators of the language, on signed numbers of 64 bits. Results wrap
around, and a numeral that is too great stands for the greatest number. A variable stands for the
number that its value writes, and for zero if it has none.
-/

namespace ShellDebugger.Script.Arithmetic

inductive Binary where
  | add | sub | mul | div | rem | shiftLeft | shiftRight | less | lessEqual | greater
  | greaterEqual | equal | notEqual | bitAnd | bitXor | bitOr
  deriving DecidableEq, Repr, Inhabited

inductive Unary where
  | plus | minus | not | complement
  deriving DecidableEq, Repr, Inhabited

inductive Expression where
  | number (value : Int)
  | variable (name : Text)
  | unary (op : Unary) (operand : Expression)
  | binary (op : Binary) (left right : Expression)
  | both (left right : Expression)
  | either (left right : Expression)
  | choice (condition whenTrue whenFalse : Expression)
  | assign (name : Text) (op : Option Binary) (value : Expression)
  deriving Repr, Inhabited

def wrap (n : Int) : Int := Int.bmod n Numeral.bound

def greatest : Nat := 0x7FFFFFFFFFFFFFFF

def digit? (base : Nat) (c : Char) : Option Nat :=
  let value :=
    if c.isDigit then some (c.toNat - '0'.toNat)
    else if 'a' ≤ c ∧ c ≤ 'f' then some (c.toNat - 'a'.toNat + 10)
    else if 'A' ≤ c ∧ c ≤ 'F' then some (c.toNat - 'A'.toNat + 10)
    else none
  value.filter (· < base)

def digits? (base : Nat) (text : Text) : Option Nat :=
  if text.isEmpty then none
  else text.foldl (fun n c ↦ do return (← n) * base + (← digit? base c)) (some 0)

/-- Reads a numeral: decimal, octal behind a zero, or hexadecimal behind `0x`. -/
def numeral? : Text → Option Nat
  | '0' :: 'x' :: rest => digits? 16 rest
  | '0' :: 'X' :: rest => digits? 16 rest
  | ['0'] => some 0
  | '0' :: rest => digits? 8 rest
  | text => digits? 10 text

def skip (text : Text) : Text :=
  text.dropWhile fun c ↦ c = ' ' ∨ c = '\t' ∨ c = '\n'

/-- The operators of two numbers with their precedences, longer ones first. -/
def binaries : List (String × Binary × Nat) :=
  [("<<", .shiftLeft, 8), (">>", .shiftRight, 8), ("<=", .lessEqual, 7), (">=", .greaterEqual, 7),
   ("==", .equal, 6), ("!=", .notEqual, 6), ("<", .less, 7), (">", .greater, 7), ("+", .add, 9),
   ("-", .sub, 9), ("*", .mul, 10), ("/", .div, 10), ("%", .rem, 10), ("&", .bitAnd, 5),
   ("^", .bitXor, 4), ("|", .bitOr, 3)]

/-- The operator of two numbers at the start of a text, unless it is part of `&&` or `||` or
assigns. -/
def binaryAt? (text : Text) : Option (Binary × Nat × Text) :=
  match text with
  | '&' :: '&' :: _ => none
  | '|' :: '|' :: _ => none
  | _ =>
    match binaries.find? fun (name, _) ↦ name.toList.isPrefixOf text with
    | none => none
    | some (name, op, level) =>
      let rest := text.drop name.length
      let assigns := rest.head? = some '=' ∧
        !([Binary.lessEqual, .greaterEqual, .equal, .notEqual, .less, .greater].contains op)
      if assigns then none else some (op, level, rest)

def assignmentAt? (text : Text) : Option (Option Binary × Text) :=
  match text with
  | '=' :: '=' :: _ => none
  | '=' :: rest => some (none, rest)
  | _ =>
    let assigning := ["<<", ">>", "+", "-", "*", "/", "%", "&", "^", "|"]
    match binaries.find? fun (name, _) ↦
        assigning.contains name && (name.toList ++ ['=']).isPrefixOf text with
    | some (name, op, _) => some (some op, text.drop (name.length + 1))
    | none => none

mutual

/-- Reads an expression: an assignment or a choice. -/
def expression (text : Text) : Nat → Option (Expression × Text)
  | 0 => none
  | fuel + 1 =>
    let text := skip text
    let name := text.takeWhile isNameChar
    let assigned : Option (Option Binary × Text) :=
      if isName name then assignmentAt? (skip (text.drop name.length)) else none
    match assigned with
    | some (op, rest) => do
      let (value, rest) ← expression rest fuel
      return (.assign name op value, rest)
    | none => choice text fuel

/-- Reads operands joined by operators, or a choice by them, the second part of which is no
assignment. -/
def choice (text : Text) : Nat → Option (Expression × Text)
  | 0 => none
  | fuel + 1 => do
    let (condition, rest) ← level 1 text fuel
    match skip rest with
    | '?' :: rest =>
      let (whenTrue, rest) ← expression rest fuel
      match skip rest with
      | ':' :: rest =>
        let (whenFalse, rest) ← choice rest fuel
        return (.choice condition whenTrue whenFalse, rest)
      | _ => none
    | rest => return (condition, rest)

/-- Reads operands joined by operators of a precedence or higher: 1 is `||`, 2 is `&&`. -/
def level (precedence : Nat) (text : Text) : Nat → Option (Expression × Text)
  | 0 => none
  | fuel + 1 => do
    let (left, rest) ← operand text fuel
    operators precedence left rest fuel

/-- Reads operators of a precedence or higher, with their right operands, behind an operand. -/
def operators (precedence : Nat) (left : Expression) (text : Text) :
    Nat → Option (Expression × Text)
  | 0 => none
  | fuel + 1 =>
    match skip text with
    | '|' :: '|' :: rest =>
      if precedence ≤ 1 then do
        let (right, rest) ← level 2 rest fuel
        operators precedence (.either left right) rest fuel
      else some (left, '|' :: '|' :: rest)
    | '&' :: '&' :: rest =>
      if precedence ≤ 2 then do
        let (right, rest) ← level 3 rest fuel
        operators precedence (.both left right) rest fuel
      else some (left, '&' :: '&' :: rest)
    | text =>
      match binaryAt? text with
      | some (op, height, rest) =>
        if precedence ≤ height then do
          let (right, rest) ← level (height + 1) rest fuel
          operators precedence (.binary op left right) rest fuel
        else some (left, text)
      | none => some (left, text)

def operand (text : Text) : Nat → Option (Expression × Text)
  | 0 => none
  | fuel + 1 =>
    match skip text with
    | '(' :: rest => do
      let (inside, rest) ← expression rest fuel
      match skip rest with
      | ')' :: rest => return (inside, rest)
      | _ => none
    | '+' :: rest => do
      let (e, rest) ← operand rest fuel
      return (.unary .plus e, rest)
    | '-' :: rest => do
      let (e, rest) ← operand rest fuel
      return (.unary .minus e, rest)
    | '!' :: rest => do
      let (e, rest) ← operand rest fuel
      return (.unary .not e, rest)
    | '~' :: rest => do
      let (e, rest) ← operand rest fuel
      return (.unary .complement e, rest)
    | text =>
      let word := text.takeWhile isNameChar
      if isName word then some (.variable word, text.drop word.length)
      else (numeral? word).map fun n ↦ (.number (min n greatest), text.drop word.length)

end

def parse (text : Text) : Option Expression :=
  match expression text (4 * text.length + 16) with
  | some (e, rest) => if (skip rest).isEmpty then some e else none
  | none => none

/-- The number that a value writes, if 64 bits hold it. -/
def numberOf? (text : Text) : Option Int :=
  let value : Option Int := match (skip (skip text).reverse).reverse with
    | [] => some 0
    | '-' :: rest => (numeral? rest).map fun n ↦ -(n : Int)
    | '+' :: rest => (numeral? rest).map fun n ↦ (n : Int)
    | text => (numeral? text).map fun n ↦ (n : Int)
  value.filter fun n ↦ wrap n = n

def isSpace (c : Char) : Bool := c == ' ' || (9 ≤ c.toNat && c.toNat ≤ 13)

/-- The number that a text writes in decimal digits, with a sign and between blanks or without, if
64 bits hold it. -/
def decimal? (text : Text) : Option Int :=
  let text := ((text.dropWhile isSpace).reverse.dropWhile isSpace).reverse
  let value : Option Int := match text with
    | '-' :: digits => (digits? 10 digits).map fun n ↦ -(n : Int)
    | '+' :: digits => (digits? 10 digits).map fun n ↦ (n : Int)
    | digits => (digits? 10 digits).map fun n ↦ (n : Int)
  value.filter fun n ↦ wrap n = n

/-- The count that a text writes, if it is not too great. -/
def count? (text : Text) : Option Nat :=
  (decimal? text).bind fun n ↦ if 0 ≤ n ∧ n < 0x80000000 then some n.toNat else none

/-- What an operator makes of two numbers; there is no division by zero. -/
def Binary.apply (op : Binary) (a b : Int) : Option Int :=
  let truth (p : Bool) : Option Int := some (if p then 1 else 0)
  match op with
  | .add => some (wrap (a + b))
  | .sub => some (wrap (a - b))
  | .mul => some (wrap (a * b))
  | .div => if b = 0 then none else some (wrap (a.tdiv b))
  | .rem => if b = 0 then none else some (wrap (a.tmod b))
  | .shiftLeft => some (wrap (a * (1 <<< (b % 64).toNat : Nat)))
  | .shiftRight => some (a.fdiv (1 <<< (b % 64).toNat : Nat))
  | .less => truth (a < b)
  | .lessEqual => truth (a ≤ b)
  | .greater => truth (b < a)
  | .greaterEqual => truth (b ≤ a)
  | .equal => truth (a == b)
  | .notEqual => truth (a != b)
  | .bitAnd => some (Int64.ofInt a &&& Int64.ofInt b).toInt
  | .bitXor => some (Int64.ofInt a ^^^ Int64.ofInt b).toInt
  | .bitOr => some (Int64.ofInt a ||| Int64.ofInt b).toInt

def Unary.apply (op : Unary) (a : Int) : Int :=
  match op with
  | .plus => a
  | .minus => wrap (-a)
  | .not => if a = 0 then 1 else 0
  | .complement => -a - 1

/-- Evaluates an expression. Variables are looked up in `values`; assignments are put in front of
`assigned`, which counts first. -/
def Expression.eval (values : Text → Option Text) (assigned : List (Text × Int)) :
    Expression → Option (Int × List (Text × Int))
  | .number value => some (value, assigned)
  | .variable name =>
    match assigned.lookup name with
    | some value => some (value, assigned)
    | none => (numberOf? ((values name).getD [])).map (·, assigned)
  | .unary op e => do
    let (a, assigned) ← e.eval values assigned
    return (op.apply a, assigned)
  | .binary op e f => do
    let (a, assigned) ← e.eval values assigned
    let (b, assigned) ← f.eval values assigned
    return (← op.apply a b, assigned)
  | .both e f => do
    let (a, assigned) ← e.eval values assigned
    if a = 0 then return (0, assigned)
    let (b, assigned) ← f.eval values assigned
    return (if b = 0 then 0 else 1, assigned)
  | .either e f => do
    let (a, assigned) ← e.eval values assigned
    if a ≠ 0 then return (1, assigned)
    let (b, assigned) ← f.eval values assigned
    return (if b = 0 then 0 else 1, assigned)
  | .choice c e f => do
    let (a, assigned) ← c.eval values assigned
    if a ≠ 0 then e.eval values assigned else f.eval values assigned
  | .assign name op e => do
    let (b, assigned) ← e.eval values assigned
    let value ← match op with
      | none => some b
      | some op => do
        let old ← match assigned.lookup name with
          | some value => some value
          | none => numberOf? ((values name).getD [])
        op.apply old b
    return (value, (name, value) :: assigned)

end ShellDebugger.Script.Arithmetic
