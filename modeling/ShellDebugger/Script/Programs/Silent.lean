import ShellDebugger.Script.Arithmetic
import ShellDebugger.Script.Programs.Basic

/-!
# Programs that print nothing

The program that lets time pass, and the one that gives files other names or moves them into a
directory under their own.
-/

namespace ShellDebugger.Script.Programs

open Run

/-! ## Sleeping -/

/-- The milliseconds of a span such as `30`, `0.5` or `2m`. -/
def span? (text : Text) : Option Nat := do
  let (digits, unit) : Text × Nat := match text.getLast? with
    | some 's' => (text.dropLast, 1)
    | some 'm' => (text.dropLast, 60)
    | some 'h' => (text.dropLast, 3600)
    | some 'd' => (text.dropLast, 86400)
    | _ => (text, 1)
  let whole := digits.takeWhile (· != '.')
  let fraction := (digits.drop (whole.length + 1)).take 3
  if whole.isEmpty ∧ fraction.isEmpty then none
  let seconds ← if whole.isEmpty then some 0 else Arithmetic.digits? 10 whole
  let thousandths ←
    if fraction.isEmpty then some 0
    else (Arithmetic.digits? 10 fraction).map (· * Nat.pow 10 (3 - fraction.length))
  return (seconds * 1000 + thousandths) * unit

def sleep (arguments : List Text) : Run Nat := do
  if arguments.isEmpty then
    grumble "sleep" "missing operand"
    return 1
  match arguments.mapM span? with
  | some spans =>
    Run.sleep (spans.foldl (· + ·) 0)
    return 0
  | none =>
    grumble "sleep" "invalid time interval"
    return 1

/-! ## Renaming files -/

/-- The path of a file with the last name of another path in a directory. -/
def pathInside (directory path : Text) : Text :=
  let name := ((path.reverse.dropWhile (· == '/')).takeWhile (· != '/')).reverse
  (directory.reverse.dropWhile (· == '/')).reverse ++ '/' :: name

def leadsToDirectory (tree : FileTree) (path : Text) : Bool :=
  match tree.find ⟨octetsOf path⟩ with
  | .ok (_, node) => node.isDirectory
  | .error _ => false

def moveFile (source target : Text) : Run Nat := do
  let tree ← files
  let here := (tree.resolve false ⟨octetsOf source⟩).toOption
  let there := (tree.resolve false ⟨octetsOf target⟩).toOption
  let said := s!"'{shown source}'"
  match here.bind tree.node? with
  | none =>
    let cause := match tree.resolve false ⟨octetsOf source⟩ with
      | .error cause => cause
      | .ok _ => .refused .noEntry
    grumble "mv" s!"cannot stat {said}: {reasonOf cause}"
    return 1
  | some node =>
    if here = there then
      grumble "mv" s!"{said} and '{shown target}' are the same file"
      return 1
    match ← ask (.rename (← shell).directory ⟨octetsOf source⟩ ⟨octetsOf target⟩) with
    | .ok () => return 0
    | .error cause =>
      grumble "mv" <|
        if cause = .refused .invalidArgument then
          s!"cannot move {said} to a subdirectory of itself, '{shown target}'"
        else if cause = .refused .notDirectory ∧ node.isDirectory then
          s!"cannot overwrite non-directory '{shown target}' with directory {said}"
        else s!"cannot move {said} to '{shown target}': {reasonOf cause}"
      return 1

def moveInto (directory : Text) (status : Nat) : List Text → Run Nat
  | [] => return status
  | source :: rest => do
    let code ← moveFile source (pathInside directory source)
    moveInto directory (max status code) rest

def mv (texts : List Text) : Run Nat := do
  match Arguments.ofTexts [⟨'f', ["force"], false⟩] true texts with
  | none =>
    grumble "mv" "invalid option"
    return 1
  | some arguments =>
    match arguments.operands.reverse with
    | [] =>
      grumble "mv" "missing file operand"
      return 1
    | [source] =>
      grumble "mv" s!"missing destination file operand after '{shown source}'"
      return 1
    | target :: sources =>
      if leadsToDirectory (← files) target then moveInto target 0 sources.reverse
      else
        match sources with
        | [source] => moveFile source target
        | _ =>
          grumble "mv" s!"target '{shown target}' is not a directory"
          return 1

end ShellDebugger.Script.Programs
