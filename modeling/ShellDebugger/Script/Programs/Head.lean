import ShellDebugger.Script.Arithmetic
import ShellDebugger.Script.Programs.Basic

/-!
# The start of files

The program that copies a number of lines or octets at the start of files, or all but a number of
them at their end, each behind a title if there are several files.
-/

namespace ShellDebugger.Script.Programs

open Run

inductive HeadUnit where
  | lines
  | octets
  deriving DecidableEq, Repr

/-- What `head` shows of a file. -/
structure HeadPlan where
  unit : HeadUnit
  count : Nat
  /-- Whether the count is what is left out at the end. -/
  leavesOut : Bool
  /-- Whether each file has a title, if that is said. -/
  titles : Option Bool
  /-- What ends a line. -/
  lineEnd : Char

def HeadPlan.usual : HeadPlan := ⟨.lines, 10, false, none, '\n'⟩

/-- A number of lines at the start of a text, and the lines that are still wanted. -/
def linesOf (lineEnd : Char) : Nat → Text → Text × Nat
  | 0, _ => ([], 0)
  | n, [] => ([], n)
  | n + 1, c :: rest =>
    let (text, left) := linesOf lineEnd (if c = lineEnd then n else n + 1) rest
    (c :: text, left)

/-- Collects the start of a descriptor: the status and what was collected. -/
def takeStart (plan : HeadPlan) (descriptor : Nat) (title : String) (count : Nat)
    (pending : Text) : Nat → Run (Nat × Text)
  | 0 => return (1, pending)
  | fuel + 1 => do
    if count = 0 then return (0, pending)
    let limit := match plan.unit with
      | .lines => block
      | .octets => min block count
    match ← ask (.read descriptor limit false) with
    | .error cause =>
      grumble "head" s!"error reading '{title}': {reasonOf cause}"
      return (1, pending)
    | .ok [] => return (0, pending)
    | .ok text =>
      let (start, left) := match plan.unit with
        | .lines => linesOf plan.lineEnd count text
        | .octets => (text, count - text.length)
      if left = 0 then ask (.goBack descriptor (text.length - start.length))
      match ← collect "head" pending start with
      | some pending => takeStart plan descriptor title left pending fuel
      | none => quit 1

/-- A text without what a plan leaves out at its end. A last line that does not end counts. -/
def withoutLast (plan : HeadPlan) (text : Text) : Text :=
  match plan.unit with
  | .octets => text.take (text.length - plan.count)
  | .lines =>
    let isOpen := text.getLast?.any (· != plan.lineEnd)
    let lines := text.count plan.lineEnd + if isOpen then 1 else 0
    (linesOf plan.lineEnd (lines - plan.count) text).1

/-- Collects what a plan says of a descriptor: the status and what was collected. -/
def startOf (plan : HeadPlan) (descriptor : Nat) (title : String) (pending : Text) :
    Run (Nat × Text) := do
  if plan.leavesOut then
    match ← readAll descriptor [] rounds with
    | .error cause =>
      grumble "head" s!"error reading '{title}': {reasonOf cause}"
      return (1, pending)
    | .ok text => return (0, pending ++ withoutLast plan text)
  else takeStart plan descriptor title plan.count pending rounds

/-- Collects the starts of files, each behind its title if it has one: the status and what was
collected. -/
def startsOf (plan : HeadPlan) (titled isFirst : Bool) (status : Nat) (pending : Text) :
    List Text → Run (Nat × Text)
  | [] => return (status, pending)
  | path :: rest => do
    match ← openOperand path with
    | .error cause =>
      grumble "head" s!"cannot open '{shown path}' for reading: {reasonOf cause}"
      startsOf plan titled isFirst 1 pending rest
    | .ok descriptor =>
      let name := if path = ['-'] then "standard input".toList else path
      let title := (if isFirst then "==> " else "\n==> ").toList ++ name ++ " <==\n".toList
      let pending := if titled then pending ++ title else pending
      let (code, pending) ← startOf plan descriptor (shown name) pending
      startsOf plan titled false (max status code) pending rest

/-! ## Counts -/

def powerOf? (c : Char) : Option Nat :=
  match c with
  | 'k' | 'K' => some 1
  | 'm' | 'M' => some 2
  | 'G' => some 3
  | 'T' => some 4
  | 'P' => some 5
  | 'E' => some 6
  | 'Z' => some 7
  | 'Y' => some 8
  | 'R' => some 9
  | 'Q' => some 10
  | _ => none

/-- What the unit behind a count stands for: blocks of 512, or powers of 1024 or of 1000. -/
def unitOf? : Text → Option Nat
  | [] => some 1
  | ['b'] => some 512
  | c :: rest => do
    let power ← powerOf? c
    match rest with
    | [] | ['i', 'B'] => return Nat.pow 1024 power
    | ['B'] | ['D'] => return Nat.pow 1000 power
    | _ => none

/-- The count that a text writes, with a unit or without, if 64 bits hold it. A unit alone counts
once. -/
def headCount? (text : Text) : Option Nat := do
  let unsigned := match text.dropWhile Arithmetic.isSpace with
    | '+' :: c :: rest => if c.isDigit then c :: rest else '+' :: c :: rest
    | rest => rest
  let digits := unsigned.takeWhile Char.isDigit
  let unit ← unitOf? (unsigned.drop digits.length)
  let number ← if digits.isEmpty ∧ !unsigned.isEmpty then some 1 else Arithmetic.digits? 10 digits
  let count := number * unit
  if count < Numeral.bound then some count else none

/-- Sets the count of a plan, which is left out behind a minus. -/
def HeadPlan.withCount (plan : HeadPlan) (unit : HeadUnit) (text : Text) : Option HeadPlan :=
  match text with
  | '-' :: rest => (headCount? rest).map fun count ↦ { plan with unit, count, leavesOut := true }
  | _ => (headCount? text).map fun count ↦ { plan with unit, count, leavesOut := false }

def headOptions : List OptionForm :=
  [⟨'c', ["bytes"], true⟩, ⟨'n', ["lines"], true⟩, ⟨'q', ["quiet", "silent"], false⟩,
   ⟨'v', ["verbose"], false⟩, ⟨'z', ["zero-terminated"], false⟩]

def HeadPlan.withOption (plan : HeadPlan) (option : Char × Text) : Option HeadPlan :=
  match option with
  | ('c', value) => plan.withCount .octets value
  | ('n', value) => plan.withCount .lines value
  | ('q', _) => some { plan with titles := some false }
  | ('v', _) => some { plan with titles := some true }
  | ('z', _) => some { plan with lineEnd := '\x00' }
  | _ => none

/-- What the letters behind a count in the first argument make of a plan, and the unit of the
count. -/
def HeadPlan.withLetters (plan : HeadPlan) (multiple : Text) : Text → Option (HeadPlan × Text)
  | [] => some (plan, multiple)
  | 'c' :: rest => { plan with unit := .octets }.withLetters [] rest
  | 'l' :: rest => { plan with unit := .lines }.withLetters multiple rest
  | c :: rest =>
    if c = 'b' ∨ c = 'k' ∨ c = 'm' then { plan with unit := .octets }.withLetters [c] rest
    else do (← plan.withOption (c, [])).withLetters multiple rest

/-- What the first argument makes of a plan if it is a count behind a minus, and the arguments that
are left. -/
def HeadPlan.withFirst (plan : HeadPlan) : List Text → Option (HeadPlan × List Text)
  | ('-' :: d :: rest) :: texts =>
    if d.isDigit then do
      let digits := (d :: rest).takeWhile Char.isDigit
      let (plan, multiple) ← plan.withLetters [] ((d :: rest).drop digits.length)
      return (← plan.withCount plan.unit (digits ++ multiple), texts)
    else some (plan, ('-' :: d :: rest) :: texts)
  | texts => some (plan, texts)

def headPlan? (texts : List Text) : Option (HeadPlan × List Text) := do
  let (plan, texts) ← HeadPlan.usual.withFirst texts
  let arguments ← Arguments.ofTexts headOptions true texts
  return (← arguments.options.foldlM HeadPlan.withOption plan, arguments.operands)

def head (texts : List Text) : Run Nat := do
  match headPlan? texts with
  | none =>
    grumble "head" "invalid option"
    return 1
  | some (plan, operands) =>
    let paths := if operands.isEmpty then [['-']] else operands
    let titled := plan.titles.getD (1 < paths.length)
    let (status, pending) ← startsOf plan titled true 0 [] paths
    return if ← put "head" pending then status else 1

end ShellDebugger.Script.Programs
