import ShellDebugger.Script.Arithmetic
import ShellDebugger.Script.Format
import ShellDebugger.Script.Pattern
import ShellDebugger.Script.Programs.Basic

/-!
# Replacing characters

The program that replaces, deletes or squeezes the characters of the standard input. Its sets are
written with ranges, properties, repetitions and backslash escapes.
-/

namespace ShellDebugger.Script.Programs

open Run

/-! ## Sets -/

/-- A character of a set as it is written, and whether a backslash stood before it. -/
abbrev Written := Char × Bool

/-- The character of the octal digits at the start of a text: three, or two if the third is too
much. -/
def octal? (text : Text) : Option (Char × Text) :=
  let digits := (text.take 3).takeWhile fun d ↦ '0' ≤ d ∧ d ≤ '7'
  match Arithmetic.digits? 8 digits with
  | none => none
  | some n =>
    if n < 256 then some (Char.ofNat n, text.drop digits.length)
    else some (Char.ofNat (n / 8), text.drop 2)

/-- Reads the backslash escapes of a set. A backslash before another character does not count, nor
does one at the end, which stands for itself. -/
def writtenChars : Text → Nat → List Written
  | _, 0 => []
  | [], _ => []
  | ['\\'], _ => [('\\', false)]
  | '\\' :: c :: rest, fuel + 1 =>
    match octal? (c :: rest) with
    | some (c, rest) => (c, true) :: writtenChars rest fuel
    | none =>
      let letter := (Format.escaped? [c]).map (·.1)
      ((if c = 'e' then c else letter.getD c), true) :: writtenChars rest fuel
  | c :: rest, fuel + 1 => (c, false) :: writtenChars rest fuel

inductive SetPart where
  /-- Characters that are written one by one, as a range or as a repetition. -/
  | chars (text : Text)
  /-- The characters that have a property. -/
  | property (name : String)
  /-- The characters that count as much as one. -/
  | equivalent (c : Char)
  /-- A character as often as is needed. -/
  | fill (c : Char)

def charsWith (name : String) : Text :=
  ((List.range 256).map Char.ofNat).filter (Pattern.hasProperty name)

def properties : List String :=
  ["alpha", "digit", "alnum", "upper", "lower", "space", "blank", "punct", "print", "graph",
   "cntrl", "xdigit"]

/-- What stands before a mark such as `:` and the bracket behind it, and what follows. -/
def between (mark : Char) (inside : Text) : List Written → Option (Text × List Written)
  | (c, false) :: (']', false) :: rest =>
    if c = mark then some (inside.reverse, rest)
    else between mark (c :: inside) ((']', false) :: rest)
  | (c, _) :: rest => between mark (c :: inside) rest
  | [] => none

def namedPart? (mark : Char) (name : Text) : Option SetPart :=
  if mark = ':' then
    let name := String.ofList name
    if properties.contains name then some (.property name) else none
  else
    match name with
    | [c] => some (.equivalent c)
    | _ => none

/-- The part between brackets at the start of a set, behind the opening one, and what follows. It
is a name between marks or a repetition; a part that is neither is no set. -/
def bracketed? (set : List Written) : Option (Option SetPart × List Written) :=
  let repetition : Option (Option SetPart × List Written) :=
    match set with
    | (c, _) :: ('*', false) :: rest =>
      let count := (rest.takeWhile fun w ↦ !w.2 && w.1 != ']').map (·.1)
      match rest.drop count.length with
      | (']', false) :: rest =>
        let times := Arithmetic.digits? (if count.head? = some '0' then 8 else 10) count
        match times with
        | some 0 => some (some (.fill c), rest)
        | some n => some (some (.chars (List.replicate n c)), rest)
        | none => some (if count.isEmpty then some (.fill c) else none, rest)
      | _ => none
    | _ => none
  match set with
  | (mark, false) :: rest =>
    if mark = ':' ∨ mark = '=' then
      match between mark [] rest with
      | some (name, rest) =>
        match namedPart? mark name, repetition with
        | some part, _ => some (some part, rest)
        | none, some (some part, rest) => some (some part, rest)
        | none, _ => some (none, rest)
      | none => repetition
    else repetition
  | _ => repetition

/-- The parts of a set, or `none` if it is not well formed. Two characters at its end stand for
themselves. -/
def setParts : List Written → Nat → Option (List SetPart)
  | _, 0 => some []
  | (c, escaped) :: second :: third :: rest, fuel + 1 =>
    match if c = '[' ∧ !escaped then bracketed? (second :: third :: rest) else none with
    | some (some part, rest) => (setParts rest fuel).map (part :: ·)
    | some (none, _) => none
    | none =>
      if second ≠ ('-', false) then
        (setParts (second :: third :: rest) fuel).map (.chars [c] :: ·)
      else if c ≤ third.1 then
        let range := (List.range (third.1.toNat - c.toNat + 1)).map fun n ↦ Char.ofNat (c.toNat + n)
        (setParts rest fuel).map (.chars range :: ·)
      else none
  | ends, _ => some (ends.map fun w ↦ .chars [w.1])

def partsOf (text : Text) : Option (List SetPart) :=
  setParts (writtenChars text (text.length + 1)) (text.length + 1)

namespace SetPart

/-- The characters of a part, if `fill` is how often one stands that stands as often as is
needed. -/
def expand (fill : Nat) : SetPart → Text
  | .chars text => text
  | .property name => charsWith name
  | .equivalent c => [c]
  | .fill c => List.replicate fill c

/-- Whether the part is a character as often as is needed. -/
def isFill : SetPart → Bool
  | .fill _ => true
  | _ => false

/-- Whether the part is the characters that count as much as one. -/
def isEquivalent : SetPart → Bool
  | .equivalent _ => true
  | _ => false

def isProperty : SetPart → Bool
  | .property _ => true
  | _ => false

/-- Whether the part is all the large or all the small letters. -/
def isCase : SetPart → Bool
  | .property name => name == "upper" || name == "lower"
  | _ => false

/-- The characters of a part, the first with the number of letters if the part is all the large or
all the small ones. -/
def cells (fill : Nat) (part : SetPart) : List (Char × Nat) :=
  match part.expand fill with
  | [] => []
  | c :: rest =>
    (c, if part.isCase then rest.length + 1 else 0) :: rest.map (·, 0)

end SetPart

/-- The characters of a set that is to have at least some length. -/
def expand (length : Nat) (parts : List SetPart) : Text :=
  let fixed := (parts.flatMap (·.expand 0)).length
  parts.flatMap (·.expand (length - fixed))

/-- Whether where all the large or all the small letters stand in the second set, they do also in
the first. -/
def isAligned : List (Char × Nat) → List (Char × Nat) → Nat → Bool
  | _, [], _ => true
  | _, _, 0 => true
  | [], (_, letters) :: _, _ => letters == 0
  | (_, letters) :: first, (_, wanted) :: second, fuel + 1 =>
    if wanted = 0 then isAligned first second fuel
    else letters != 0 && isAligned (first.drop (letters - 1)) (second.drop (wanted - 1)) fuel

/-! ## What is done -/

/-- What `tr` does to characters. -/
structure Replacement where
  deleted : Text
  /-- Characters and what stands for them. -/
  mapped : List (Char × Char)
  /-- The characters of which one counts for several in a row. -/
  squeezed : Text

def trOptions : List OptionForm :=
  [⟨'c', ["complement"], false⟩, ⟨'C', [], false⟩, ⟨'d', ["delete"], false⟩,
   ⟨'s', ["squeeze-repeats"], false⟩, ⟨'t', ["truncate-set1"], false⟩]

/-- The second set as it stands against the characters of the first, and the characters that are
replaced. A second set that is too short goes on with its last character, unless the first is cut
off instead; it may not end in a property then. Of properties it may hold only all the large or all
the small letters, where the first set has some. If the first is a complement with a property, all
its characters are replaced by one. -/
def mapping? (complement truncates : Bool) (parts : List SetPart) (first : Text)
    (second : List SetPart) : Option (Text × List (Char × Char)) := do
  if second.any fun part ↦ part.isEquivalent || (part.isProperty && !part.isCase) then none
  let text := expand first.length second
  let fill := first.length - (second.flatMap (·.expand 0)).length
  if !complement ∧ second.any (·.isProperty) then
    unless isAligned (parts.flatMap (·.cells 0)) (second.flatMap (·.cells fill)) text.length do none
  let goesOn := text.length < first.length ∧ !truncates
  if goesOn ∧ second.getLast?.all (·.isProperty) then none
  let filled :=
    if goesOn then
      text ++ List.replicate (first.length - text.length) (text.getLast?.getD '\x00')
    else text
  if complement ∧ parts.any (·.isProperty) then
    let isOne := !filled.isEmpty && filled.all (filled.head? == some ·)
    unless filled.length = first.length ∧ isOne do none
  return (filled, (first.zip filled).reverse)

def replacement? (arguments : Arguments) : Option Replacement := do
  let complement := arguments.has 'c' || arguments.has 'C'
  let parts ← partsOf (← arguments.operands.head?)
  let second : Option (List SetPart) ← match arguments.operands[1]? with
    | none => some none
    | some text => (partsOf text).map some
  if parts.any (·.isFill) ∨ 2 < arguments.operands.length then none
  let written := expand 0 parts
  let first :=
    if complement then ((List.range 256).map Char.ofNat).filter fun c ↦ !written.contains c
    else written
  let fills := (second.getD []).countP (·.isFill)
  match arguments.has 'd', arguments.has 's', second with
  | true, false, none => return ⟨first, [], []⟩
  | true, true, some second =>
    if fills = 0 then return ⟨first, [], expand 0 second⟩ else none
  | true, _, _ => none
  | false, true, none => return ⟨[], [], first⟩
  | false, false, none => none
  | false, squeezes, some second =>
    if 1 < fills then none
    let (text, mapped) ← mapping? complement (arguments.has 't') parts first second
    return ⟨[], mapped, if squeezes then text else []⟩

/-- What `tr` makes of a text, given the last character that it has printed. -/
def Replacement.apply (r : Replacement) (last : Option Char) (printed : Text) :
    Text → Text × Option Char
  | [] => (printed.reverse, last)
  | c :: rest =>
    if r.deleted.contains c then r.apply last printed rest
    else
      let c := (r.mapped.lookup c).getD c
      if last = some c ∧ r.squeezed.contains c then r.apply last printed rest
      else r.apply (some c) (c :: printed) rest

def replaceAll (r : Replacement) (last : Option Char) (pending : Text) : Nat → Run Nat
  | 0 => return 1
  | fuel + 1 => do
    match ← ask (.read 0 block false) with
    | .error cause =>
      grumble "tr" s!"read error: {reasonOf cause}"
      return 1
    | .ok [] => return if ← put "tr" pending then 0 else 1
    | .ok text =>
      let (printed, last) := r.apply last [] text
      match ← collect "tr" pending printed with
      | some pending => replaceAll r last pending fuel
      | none => return 1

/-- Replaces, deletes or squeezes the characters of the standard input. -/
def tr (texts : List Text) : Run Nat := do
  match (Arguments.ofTexts trOptions false texts).bind replacement? with
  | some r => replaceAll r none [] rounds
  | none =>
    grumble "tr" "invalid operands"
    return 1

end ShellDebugger.Script.Programs
