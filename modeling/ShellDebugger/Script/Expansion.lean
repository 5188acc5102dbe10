import ShellDebugger.Script.Arithmetic
import ShellDebugger.Script.Pattern
import ShellDebugger.Script.Shell

/-!
# Expansion of words

A word is expanded to characters that remember where they come from, cut into fields, and matched
against the files. How the script of a substitution is run is a parameter.
-/

namespace ShellDebugger.Script.Expansion

open Run

inductive Atom where
  | char (c : Char) (quoted splits : Bool)
  /-- A quotation, which makes a field even if it is empty. -/
  | quotation
  /-- The border between two arguments. -/
  | border
  deriving Repr

/-- How the script of a substitution is run: the text that it prints. -/
abbrev Substitute := Text → Run Text

def atoms (text : Text) (quoted splits : Bool) : List Atom :=
  text.map fun c ↦ .char c quoted splits

def plain (pieces : List Atom) : Text :=
  pieces.filterMap fun
    | .char c .. => some c
    | .border => some ' '
    | _ => none

/-- The characters of some pieces, each with whether it is quoted. -/
def marked (pieces : List Atom) : List (Char × Bool) :=
  pieces.filterMap fun
    | .char c quoted _ => some (c, quoted)
    | _ => none

def separators : Run Text := do
  return (← valueOf? "IFS".toList).getD [' ', '\t', '\n']

/-- The letters of options, in the order in which they are told. -/
def optionLetters : List Char :=
  ['p', 'u', 'b', 'a', 'C', 'E', 'V', 'v', 'x', 's', 'n', 'm', 'i', 'I', 'f', 'e']

def parameter? (name : Text) : Run (Option Text) := do
  let s ← shell
  match name with
  | ['?'] => return some (toString s.status).toList
  | ['#'] => return some (toString s.arguments.length).toList
  | ['$'] => return some (toString s.processId).toList
  | ['!'] => return s.lastJob.map fun n ↦ (toString n).toList
  | ['-'] => return some (optionLetters.filter s.options.contains)
  | ['0'] => return some s.name
  | ['@'] => return if s.arguments.isEmpty then none else some ([' '].intercalate s.arguments)
  | ['*'] =>
    let between := (← separators).take 1
    return if s.arguments.isEmpty then none else some (between.intercalate s.arguments)
  | _ =>
    match Arithmetic.digits? 10 name with
    | some n => return s.arguments[n - 1]?
    | none => valueOf? name

def argumentAtoms (star quoted : Bool) : Run (List Atom) := do
  let arguments := (← shell).arguments
  if quoted ∧ star then
    return atoms (((← separators).take 1).intercalate arguments) true false
  let pieces := arguments.map fun a ↦
    if quoted then .quotation :: atoms a true false else atoms a false true
  return [Atom.border].intercalate pieces

/-- Puts a home directory in the place of a tilde at the start of a word. -/
def homeFor (home : Text) (w : Word) : Word :=
  match w with
  | .literal ('~' :: rest) false :: parts =>
    if (rest.isEmpty ∧ parts.isEmpty) ∨ rest.head? = some '/' then
      .home home :: .literal rest false :: parts
    else w
  | _ => w

/-- Puts a home directory in the place of the tildes in a literal text that stand at its start, if
that counts, or behind a colon, up to a slash, a colon or the end. The end counts if `atEnd`. -/
def homesIn (home : Text) (isStart atEnd : Bool) (read : Text) : Text → Word
  | [] => [.literal read.reverse false]
  | '~' :: rest =>
    let here : Bool := match rest with
      | [] => atEnd
      | c :: _ => c == '/' || c == ':'
    if isStart && here then
      .literal read.reverse false :: .home home :: homesIn home false atEnd [] rest
    else homesIn home false atEnd ('~' :: read) rest
  | c :: rest => homesIn home (c == ':') atEnd (c :: read) rest

/-- Puts a home directory in the place of the tildes of a value. -/
def homesFor (home : Text) (isStart : Bool) : Word → Word
  | [] => []
  | .literal text false :: parts =>
    homesIn home isStart parts.isEmpty [] text ++
      homesFor home (text.getLast? == some ':') parts
  | part :: parts => part :: homesFor home false parts

def tilde (w : Word) : Run Word := do
  return ((← valueOf? "HOME".toList).map (homeFor · w)).getD w

def tildes (w : Word) : Run Word := do
  return ((← valueOf? "HOME".toList).map (homesFor · true w)).getD w

mutual

def word (substitute : Substitute) : Word → Nat → Run (List Atom)
  | _, 0 => fail "expansion too deep"
  | [], _ => return []
  | first :: rest, fuel + 1 => do
    let pieces ← part substitute first fuel
    return pieces ++ (← word substitute rest fuel)

def part (substitute : Substitute) : Part → Nat → Run (List Atom)
  | _, 0 => fail "expansion too deep"
  | .literal text quoted, _ =>
    return if quoted then .quotation :: atoms text true false else atoms text false false
  | .home text, _ => return atoms text true false
  | .substitution script quoted, _ => do
    let text ← substitute script
    let text := (text.reverse.dropWhile (· == '\n')).reverse
    return atoms (text.filter (· != '\x00')) quoted (!quoted)
  | .arithmetic expression quoted, fuel + 1 => do
    let text := plain (← word substitute expression fuel)
    let values := (← shell).bindings
    let lookUp (name : Text) : Option Text := (values.lookup name).bind (·.value)
    match (Arithmetic.parse text).bind (·.eval lookUp []) with
    | none => fail "arithmetic expression: not well formed"
    | some (value, assigned) =>
      for (name, value) in assigned.reverse do
        let _ ← assign name (toString value).toList
      return atoms (toString value).toList quoted (!quoted)
  | .parameter name use argument quoted, fuel + 1 => do
    let value ← parameter? name
    let unset := value.isNone
    let isArguments := name = ['@'] ∨ name = ['*']
    let itself : Run (List Atom) := do
      if isArguments then argumentAtoms (name = ['*']) quoted
      else return atoms (value.getD []) quoted (!quoted)
    let missing (emptyToo : Bool) : Bool := unset || (emptyToo && value == some [])
    let mustBeSet : Run Unit := do
      if unset ∧ !isArguments ∧ (← isOn 'u') then
        fail s!"{String.ofList name}: parameter not set"
    let trimmed (trim : List PatternItem → Text → Text) : Run (List Atom) := do
      mustBeSet
      let pattern := Pattern.ofChars (marked (← word substitute (← tilde argument) fuel))
      return atoms (trim pattern (value.getD [])) quoted (!quoted)
    let replaced : Run (List Atom) := do
      let pieces ← word substitute (← tilde argument) fuel
      return pieces.map fun
        | .char c q _ => .char c (q || quoted) (!q && !quoted)
        | atom => atom
    match use with
    | .value =>
      mustBeSet
      itself
    | .length =>
      mustBeSet
      return atoms (toString (value.getD []).length).toList quoted (!quoted)
    | .orElse emptyToo => if missing emptyToo then replaced else itself
    | .ifSet emptyToo => if missing emptyToo then return [] else replaced
    | .orAssign emptyToo =>
      if missing emptyToo then
        let text := plain (← replaced)
        if !isName name then fail s!"{String.ofList name}: bad variable name"
        unless ← assign name text do fail s!"{String.ofList name}: is read only"
        return atoms text quoted (!quoted)
      else itself
    | .orFail emptyToo =>
      if missing emptyToo then
        let text := plain (← replaced)
        let reason := if text.isEmpty then "parameter not set" else String.ofList text
        fail s!"{String.ofList name}: {reason}"
      else itself
    | .withoutEnd longest => trimmed (Pattern.withoutEnd longest)
    | .withoutStart longest => trimmed (Pattern.withoutStart longest)

end

def depth : Nat := 10000

/-- A field that is being cut: its characters, last first, and whether a quotation is in it. -/
structure Field where
  chars : List (Char × Bool)
  isQuoted : Bool

def Field.empty : Field := ⟨[], false⟩

def Field.counts (f : Field) : Bool :=
  !f.chars.isEmpty || f.isQuoted

/-- Cuts pieces into fields. Separators that are no blanks each end a field; blanks next to them
and at the ends do not count. `afterBlank` says that a blank has ended the field before. -/
def cut (separators : Text) (done : List (List (Char × Bool))) (field : Field) (afterBlank : Bool) :
    List Atom → List (List (Char × Bool))
  | [] => (if field.counts then field.chars.reverse :: done else done).reverse
  | .border :: rest =>
    cut separators (if field.counts then field.chars.reverse :: done else done) .empty false rest
  | .quotation :: rest => cut separators done { field with isQuoted := true } afterBlank rest
  | .char c quoted splits :: rest =>
    if splits ∧ separators.contains c then
      if c = ' ' ∨ c = '\t' ∨ c = '\n' then
        if field.counts then cut separators (field.chars.reverse :: done) .empty true rest
        else cut separators done .empty afterBlank rest
      else if afterBlank ∧ !field.counts then cut separators done .empty false rest
      else cut separators (field.chars.reverse :: done) .empty false rest
    else cut separators done { field with chars := (c, quoted) :: field.chars } afterBlank rest

/-- The names in a directory that a pattern matches. A name that begins with a dot is matched only
by a dot. -/
def matchingNames (tree : FileTree) (directory : Path) (pattern : List PatternItem) : List Text :=
  match tree.find directory with
  | .ok (place, .directory) =>
    let startsWithDot := match pattern with
      | .char '.' :: _ => true
      | _ => false
    (['.'] :: ['.', '.'] :: (tree.namesIn place).map textOf).filter fun name ↦
      (name.head? != some '.' || startsWithDot) && Pattern.isMatch pattern name
  | _ => []

/-- The paths that begin with one of `found` and go on as the pieces of a pattern between slashes
say. -/
def matchingPaths (tree : FileTree) (found : List Text) : List (List (Char × Bool)) → List Text
  | [] => found
  | piece :: rest =>
    let pattern := Pattern.ofChars piece
    let next := found.flatMap fun start ↦
      if Pattern.isOpen pattern then
        let directory : Path := if start.isEmpty then "." else ⟨octetsOf start⟩
        (matchingNames tree directory pattern).map (start ++ ·)
      else [start ++ piece.map (·.1)]
    let next := if rest.isEmpty then next else next.map (· ++ ['/'])
    matchingPaths tree next rest

def pathPieces (current : List (Char × Bool)) : List (Char × Bool) → List (List (Char × Bool))
  | [] => [current.reverse]
  | (c, quoted) :: rest =>
    if c = '/' then current.reverse :: pathPieces [] rest
    else pathPieces ((c, quoted) :: current) rest

/-- Whether something stands at a path, be it a link that leads nowhere. Behind a slash at the end
there has to be a directory. -/
def stands (tree : FileTree) (path : Text) : Bool :=
  if path.getLast? = some '/' then
    match tree.find ⟨octetsOf path⟩ with
    | .ok (_, node) => node.isDirectory
    | .error _ => false
  else
    match tree.resolve false ⟨octetsOf path⟩ with
    | .ok place => (tree.node? place).isSome
    | .error _ => false

/-- The paths that a field matches, or its own text if there are none. -/
def matched (field : List (Char × Bool)) : Run (List Text) := do
  let itself := field.map (·.1)
  if !Pattern.isOpen (Pattern.ofChars field) || (← isOn 'f') then return [itself]
  let tree ← files
  let pieces := pathPieces [] (Pattern.unescape field)
  let paths := (matchingPaths tree [[]] pieces).filter (stands tree)
  return if paths.isEmpty then [itself]
    else paths.mergeSort fun a b ↦ String.ofList a ≤ String.ofList b

def fields (substitute : Substitute) (w : Word) : Run (List Text) := do
  let pieces ← word substitute (← tilde w) depth
  let cuts := cut (← separators) [] .empty false pieces
  return (← cuts.mapM matched).flatten

def allFields (substitute : Substitute) (ws : List Word) : Run (List Text) := do
  return (← ws.mapM (fields substitute)).flatten

def text (substitute : Substitute) (w : Word) : Run Text := do
  return plain (← word substitute (← tilde w) depth)

def value (substitute : Substitute) (w : Word) : Run Text := do
  return plain (← word substitute (← tildes w) depth)

def pattern (substitute : Substitute) (w : Word) : Run (List PatternItem) := do
  return Pattern.ofChars (marked (← word substitute (← tilde w) depth))

end ShellDebugger.Script.Expansion
