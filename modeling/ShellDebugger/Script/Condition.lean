import ShellDebugger.Host.FileTree
import ShellDebugger.Script.Arithmetic

/-!
# Conditions

The conditions that `test` evaluates. They are read as expressions: operands with operators of one
or two of them, joined by `!`, `-a` and `-o` and grouped by parentheses. An operator that stands
where only an operand can is one. A condition that is no expression has no answer.
-/

namespace ShellDebugger.Script.Condition

inductive Token where
  | operand
  /-- An operator of one operand. -/
  | unary
  /-- An operator of two operands. -/
  | binary
  | not
  | both
  | either
  | opening
  | closing
  /-- There is no argument. -/
  | none
  deriving DecidableEq, Repr

def unaries : List String :=
  ["-r", "-w", "-x", "-e", "-f", "-d", "-c", "-b", "-p", "-u", "-g", "-k", "-s", "-t", "-z", "-n",
   "-h", "-O", "-G", "-L", "-S"]

def binaries : List String :=
  ["=", "!=", "<", ">", "-eq", "-ne", "-ge", "-gt", "-le", "-lt", "-nt", "-ot", "-ef"]

def operator (text : Text) : Token :=
  let name := String.ofList text
  if unaries.contains name then .unary
  else if binaries.contains name then .binary
  else
    match name with
    | "!" => .not
    | "-a" => .both
    | "-o" => .either
    | "(" => .opening
    | ")" => .closing
    | _ => .operand

/-- What the first of some arguments is, given those behind it. -/
def token : List Text → Token
  | [] => .none
  | text :: rest =>
    match operator text with
    | .unary =>
      match rest with
      | [] => .operand
      | [_] => .unary
      | next :: _ => if operator next = .binary then .operand else .unary
    | .opening => if rest.isEmpty then .operand else .opening
    | token => token

def unary (files : FileTree) (op operand : Text) : Option Bool :=
  let path : Path := ⟨octetsOf operand⟩
  let node? : Option Node := (files.find path).toOption.map (·.2)
  match String.ofList op with
  | "-n" => some (!operand.isEmpty)
  | "-z" => some operand.isEmpty
  | "-e" | "-r" | "-w" | "-O" | "-G" => some node?.isSome
  | "-f" => some <| match node? with
    | some (.regular ..) | some (.program _) => true
    | _ => false
  | "-d" => some ((node?.map (·.isDirectory)).getD false)
  | "-x" => some <| match node? with
    | some (.regular _ mode) => mode &&& 0o111 != 0
    | some .directory | some (.program _) => true
    | _ => false
  | "-s" => some <| match node? with
    | some (.regular content _) => !content.isEmpty
    | some .directory | some (.program _) => true
    | _ => false
  | "-p" => some <| match node? with
    | some (.pipe ..) => true
    | _ => false
  | "-c" => some <| match node? with
    | some (.device _) => true
    | _ => false
  | "-h" | "-L" => some <| match files.resolve false path with
    | .ok place =>
      match files.node? place with
      | some (.link _) => true
      | _ => false
    | .error _ => false
  | "-t" => (Arithmetic.decimal? operand).map fun _ ↦ false
  | _ => some false

def binary (files : FileTree) (left op right : Text) : Option Bool :=
  let compare (f : Int → Int → Bool) : Option Bool := do
    return f (← Arithmetic.decimal? left) (← Arithmetic.decimal? right)
  match String.ofList op with
  | "=" => some (left == right)
  | "!=" => some (left != right)
  | "<" => some (String.ofList left < String.ofList right)
  | ">" => some (String.ofList right < String.ofList left)
  | "-eq" => compare (· == ·)
  | "-ne" => compare (· != ·)
  | "-lt" => compare fun a b ↦ a < b
  | "-le" => compare fun a b ↦ a ≤ b
  | "-gt" => compare fun a b ↦ b < a
  | "-ge" => compare fun a b ↦ b ≤ a
  | "-ef" => some <| match files.find ⟨octetsOf left⟩, files.find ⟨octetsOf right⟩ with
    | .ok (first, _), .ok (second, _) => first == second
    | _, _ => false
  | _ => some false

/-- An answer together with the arguments that are left. -/
abbrev Answer := Option (Bool × List Text)

mutual

/-- Reads expressions joined by `-o`. The flag says that the first argument is an operand. -/
def either (files : FileTree) (isOperand : Bool) (arguments : List Text) : Nat → Answer
  | 0 => none
  | fuel + 1 => do
    let (answer, rest) ← both files isOperand arguments fuel
    if token rest = .either then
      let (other, rest) ← either files false (rest.drop 1) fuel
      return (answer || other, rest)
    return (answer, rest)

def both (files : FileTree) (isOperand : Bool) (arguments : List Text) : Nat → Answer
  | 0 => none
  | fuel + 1 => do
    let (answer, rest) ← negated files isOperand arguments fuel
    if token rest = .both then
      let (other, rest) ← both files false (rest.drop 1) fuel
      return (answer && other, rest)
    return (answer, rest)

def negated (files : FileTree) (isOperand : Bool) (arguments : List Text) : Nat → Answer
  | 0 => none
  | fuel + 1 =>
    if !isOperand && token arguments = .not then do
      let (answer, rest) ← negated files false (arguments.drop 1) fuel
      return (!answer, rest)
    else primary files isOperand arguments fuel

/-- Reads an expression of one operator or operand, or one in parentheses. -/
def primary (files : FileTree) (isOperand : Bool) (arguments : List Text) : Nat → Answer
  | 0 => none
  | fuel + 1 =>
    let first := if isOperand then Token.operand else token arguments
    match first, arguments with
    | _, [] => some (false, [])
    | .opening, _ :: rest =>
      if token rest = .closing then some (false, rest.drop 1)
      else do
        let (answer, rest) ← either files false rest fuel
        if token rest = .closing then return (answer, rest.drop 1) else none
    | .unary, op :: rest =>
      match rest with
      | [] => none
      | operand :: rest => (unary files op operand).map (·, rest)
    | _, left :: rest =>
      match token rest, rest with
      | .binary, op :: right :: rest => (binary files left op right).map (·, rest)
      | .binary, _ => none
      | _, _ => some (!left.isEmpty, rest)

end

def whole (files : FileTree) (isOperand : Bool) (arguments : List Text) : Option Bool :=
  match either files isOperand arguments (4 * arguments.length + 8) with
  | some (answer, []) => some answer
  | _ => none

/-- Evaluates a condition. Three and four arguments are read by what stands first, in the middle
and last among them. -/
def eval (files : FileTree) (arguments : List Text) : Option Bool :=
  match arguments with
  | [] => some false
  | [left, op, right] =>
    if operator op = .binary then whole files true [left, op, right]
    else if left = ['('] ∧ right = [')'] then whole files false [op]
    else if left = ['!'] then (eval files [op, right]).map (!·)
    else whole files false arguments
  | [first, second, third, fourth] =>
    if first = ['('] ∧ fourth = [')'] then whole files false [second, third]
    else if first = ['!'] then (eval files [second, third, fourth]).map (!·)
    else whole files false arguments
  | _ => whole files false arguments
termination_by arguments.length

end ShellDebugger.Script.Condition
