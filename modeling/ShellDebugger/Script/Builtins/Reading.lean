import ShellDebugger.Script.Builtins.Basic
import ShellDebugger.Script.Expansion

/-!
# Reading lines

The command that reads a line and shares it among variables.
-/

namespace ShellDebugger.Script.Builtins

open Run

/-- A character of a line, and whether a backslash stood before it. -/
abbrev Typed := Char × Bool

structure Typing where
  /-- The characters, last first. -/
  line : List Typed
  /-- Whether the last character read is a backslash that protects the next one. -/
  escapes : Bool
  /-- Whether the end of the line was read. -/
  ended : Bool

/-- The line after one more character. In a raw line backslashes are as others. -/
def Typing.push (raw : Bool) (t : Typing) (c : Char) : Typing :=
  if t.ended ∨ c = '\x00' then t
  else if t.escapes then
    { t with line := if c = '\n' then t.line else (c, true) :: t.line, escapes := false }
  else if c = '\\' ∧ !raw then { t with escapes := true }
  else if c = '\n' then { t with ended := true }
  else { t with line := (c, false) :: t.line }

def lineBlock : Nat := 65536

def readLine (raw : Bool) (t : Typing) : Nat → Run Typing
  | 0 => return t
  | fuel + 1 => do
    match ← ask (.read 0 lineBlock true) with
    | .error _ | .ok [] => return t
    | .ok text =>
      let t := text.foldl (Typing.push raw) t
      if t.ended then return t else readLine raw t fuel

/-- Splits a line among a number of variables. The last one gets what is left, without the
separator behind it if that is a single field, and without blanks at the end. -/
def share (separators : Text) (line : List Typed) : Nat → List Text
  | 0 => []
  | count + 1 =>
    let separates (t : Typed) : Bool := !t.2 && separators.contains t.1
    let blank (t : Typed) : Bool := separates t && [' ', '\t', '\n'].contains t.1
    let line := line.dropWhile blank
    let field := line.takeWhile (!separates ·)
    let rest := match (line.drop field.length).dropWhile blank with
      | t :: more => if separates t then more.dropWhile blank else t :: more
      | [] => []
    if rest.isEmpty then field.map (·.1) :: List.replicate count []
    else
      match count with
      | 0 => [((line.reverse.dropWhile blank).reverse).map (·.1)]
      | count + 1 => field.map (·.1) :: share separators rest (count + 1)

/-- Reads a line from the standard input into variables. -/
def read (arguments : List Text) : Run Nat := do
  let (options, names) ← optionsOf ['r'] [] arguments
  if names.isEmpty then fail "read: arg count"
  let t ← readLine (!options.isEmpty) ⟨[], false, false⟩ Run.pieces
  let values := share (← Expansion.separators) t.line.reverse names.length
  for (name, value) in names.zip values do
    unless isName name do fail s!"read: {shown name}: bad variable name"
    mustAssign name value
  return if t.ended then 0 else 1

end ShellDebugger.Script.Builtins
