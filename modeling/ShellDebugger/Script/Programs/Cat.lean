import ShellDebugger.Script.Programs.Basic

/-!
# Showing files

The program that copies files to the standard output. It may number the lines, leave out empty lines
behind the first of several, and show what cannot be seen.
-/

namespace ShellDebugger.Script.Programs

open Run

structure LineStyle where
  /-- Whether lines have numbers, all or those that are not empty. -/
  numbered : Bool
  numbersEmpty : Bool
  /-- Whether of several empty lines only the first is shown. -/
  squeezed : Bool
  /-- Whether ends of lines are marked. -/
  ends : Bool
  /-- Whether tabs are shown as what they are. -/
  tabs : Bool
  /-- Whether other characters that cannot be seen are shown as what they are. -/
  unseen : Bool
  deriving DecidableEq

def LineStyle.plain : LineStyle := ⟨false, false, false, false, false, false⟩

structure LinePlace where
  /-- The number of the last line that has one. -/
  number : Nat
  /-- The empty lines before, at the start of a line. -/
  empty : Option Nat
  /-- Whether a return was read that may belong to the end of a line. -/
  afterReturn : Bool

def LinePlace.start : LinePlace := ⟨0, some 0, false⟩

def numberText (n : Nat) : Text :=
  let digits := (toString n).toList
  List.replicate (6 - digits.length) ' ' ++ digits ++ ['\t']

def seenLow (c : Char) : Text :=
  if c.toNat < 0x20 then ['^', Char.ofNat (c.toNat + 0x40)]
  else if c.toNat = 0x7F then ['^', '?']
  else [c]

def LineStyle.seen (style : LineStyle) (c : Char) : Text :=
  if c = '\t' then if style.tabs then ['^', 'I'] else [c]
  else if !style.unseen then [c]
  else if c.toNat < 0x80 then seenLow c
  else 'M' :: '-' :: seenLow (Char.ofNat (c.toNat - 0x80))

/-- Shows a text: the place behind it and what is shown, behind `shown`, whose pieces are last to
first. -/
def LineStyle.render (style : LineStyle) (place : LinePlace) (shown : List Text) :
    Text → LinePlace × Text
  | [] => (place, shown.reverse.flatten)
  | '\n' :: rest =>
    let ended := { place with empty := some (place.empty.elim 0 (· + 1)), afterReturn := false }
    if place.empty.any (0 < ·) ∧ style.squeezed then
      style.render { ended with empty := place.empty } shown rest
    else
      let hasNumber := place.empty.isSome ∧ style.numbered ∧ style.numbersEmpty
      let number := if hasNumber then numberText (place.number + 1) else []
      let ended := { ended with number := if hasNumber then place.number + 1 else place.number }
      let carriage := if place.afterReturn then ['^', 'M'] else []
      let mark := if style.ends then ['$'] else []
      style.render ended ((number ++ carriage ++ mark ++ ['\n']) :: shown) rest
  | c :: rest =>
    let hasNumber := place.empty.isSome ∧ style.numbered
    let number := if hasNumber then numberText (place.number + 1) else []
    let carriage := if place.afterReturn then ['\r'] else []
    let place := ⟨if hasNumber then place.number + 1 else place.number, none, false⟩
    if c = '\r' ∧ style.ends ∧ !style.unseen then
      style.render { place with afterReturn := true } ((carriage ++ number) :: shown) rest
    else style.render place ((carriage ++ number ++ style.seen c) :: shown) rest

def catBlock : Nat := 131072

/-- Copies a descriptor to the standard output: the status and the place behind it. -/
def copyAll (style : LineStyle) (place : LinePlace) (descriptor : Nat) (title : String) :
    Nat → Run (Nat × LinePlace)
  | 0 => return (1, place)
  | fuel + 1 => do
    match ← ask (.read descriptor catBlock false) with
    | .error cause =>
      grumble "cat" s!"{title}: {reasonOf cause}"
      return (1, place)
    | .ok [] => return (0, place)
    | .ok text =>
      let (place, shown) := if style = .plain then (place, text) else style.render place [] text
      if ← put "cat" shown then copyAll style place descriptor title fuel else quit 1

def copyFiles (style : LineStyle) (place : LinePlace) (status : Nat) : List Text → Run Nat
  | [] => do
    if !place.afterReturn then return status
    return if ← put "cat" ['\r'] then status else 1
  | path :: rest => do
    let title := shown path
    match ← openOperand path with
    | .error cause =>
      grumble "cat" s!"{title}: {reasonOf cause}"
      copyFiles style place 1 rest
    | .ok descriptor =>
      if ← ask (.feedsItself descriptor) then
        grumble "cat" s!"{title}: input file is output file"
        copyFiles style place 1 rest
      else
        let (code, place) ← copyAll style place descriptor title rounds
        copyFiles style place (max status code) rest

def catOptions : List OptionForm :=
  [⟨'A', ["show-all"], false⟩, ⟨'b', ["number-nonblank"], false⟩, ⟨'e', [], false⟩,
   ⟨'E', ["show-ends"], false⟩, ⟨'n', ["number"], false⟩, ⟨'s', ["squeeze-blank"], false⟩,
   ⟨'t', [], false⟩, ⟨'T', ["show-tabs"], false⟩, ⟨'u', [], false⟩,
   ⟨'v', ["show-nonprinting"], false⟩]

/-- Copies files, or the standard input if there are none, to the standard output. -/
def cat (texts : List Text) : Run Nat :=
  match Arguments.ofTexts catOptions true texts with
  | none => do
    grumble "cat" "invalid option"
    return 1
  | some arguments =>
    let hasAny (letters : List Char) : Bool := letters.any arguments.has
    let style : LineStyle :=
      { numbered := hasAny ['n', 'b']
        numbersEmpty := !arguments.has 'b'
        squeezed := arguments.has 's'
        ends := hasAny ['A', 'e', 'E']
        tabs := hasAny ['A', 't', 'T']
        unseen := hasAny ['A', 'e', 't', 'v'] }
    let style := if style.numbered then style else { style with numbersEmpty := false }
    copyFiles style .start 0
      (if arguments.operands.isEmpty then [['-']] else arguments.operands)

end ShellDebugger.Script.Programs
