import ShellDebugger.Script.Grammar

/-!
# Patterns

Patterns match texts: a star stands for any characters, a question mark for one, and brackets for
one of a set. What is quoted stands for itself, and so does what follows a backslash.
-/

namespace ShellDebugger.Script

inductive SetElement where
  | range (first last : Char)
  | property (name : String)
  deriving Repr

inductive PatternItem where
  | char (c : Char)
  | one
  | any
  | set (negated : Bool) (elements : List SetElement)
  deriving Repr

namespace Pattern

/-- Whether a character has a property by its name in brackets. -/
def hasProperty (name : String) (c : Char) : Bool :=
  match name with
  | "alpha" => c.isAlpha
  | "digit" => c.isDigit
  | "alnum" => c.isAlphanum
  | "upper" => c.isUpper
  | "lower" => c.isLower
  | "space" => c == ' ' || (9 ≤ c.toNat && c.toNat ≤ 13)
  | "blank" => c == ' ' || c == '\t'
  | "punct" => 0x21 ≤ c.toNat && c.toNat ≤ 0x7E && !c.isAlphanum
  | "print" => 0x20 ≤ c.toNat && c.toNat ≤ 0x7E
  | "graph" => 0x21 ≤ c.toNat && c.toNat ≤ 0x7E
  | "cntrl" => c.toNat < 0x20 || c.toNat == 0x7F
  | "xdigit" => c.isDigit || ('a' ≤ c && c ≤ 'f') || ('A' ≤ c && c ≤ 'F')
  | _ => false

def holds (c : Char) : SetElement → Bool
  | .range first last => first ≤ c && c ≤ last
  | .property name => hasProperty name c

/-- The elements of a set up to its closing bracket, behind those in `read`. Characters come with
whether they are quoted. -/
def elementsAfter (read : List SetElement) :
    List (Char × Bool) → Nat → Option (List SetElement × List (Char × Bool))
  | _, 0 => none
  | [], _ => none
  | ('[', false) :: (':', false) :: rest, fuel + 1 =>
    let name := (rest.takeWhile (·.1 != ':')).map (·.1)
    match rest.drop name.length with
    | (':', _) :: (']', _) :: rest =>
      elementsAfter (.property (String.ofList name) :: read) rest fuel
    | _ => elementsAfter (.range '[' '[' :: read) ((':', false) :: rest) fuel
  | (']', quoted) :: rest, fuel + 1 =>
    if quoted ∨ read.isEmpty then elementsAfter (.range ']' ']' :: read) rest fuel
    else some (read.reverse, rest)
  | (first, _) :: ('-', false) :: (last, quoted) :: rest, fuel + 1 =>
    if last = ']' ∧ !quoted then
      elementsAfter (.range first first :: read) (('-', false) :: (last, quoted) :: rest) fuel
    else elementsAfter (.range first last :: read) rest fuel
  | (c, _) :: rest, fuel + 1 => elementsAfter (.range c c :: read) rest fuel

/-- The elements of a pattern. A bracket that is not closed stands for itself. -/
def items : List (Char × Bool) → Nat → List PatternItem
  | _, 0 => []
  | [], _ => []
  | (c, true) :: rest, fuel + 1 => .char c :: items rest fuel
  | ('*', false) :: rest, fuel + 1 => .any :: items rest fuel
  | ('?', false) :: rest, fuel + 1 => .one :: items rest fuel
  | ('[', false) :: rest, fuel + 1 =>
    let (negated, inside) : Bool × List (Char × Bool) := match rest with
      | ('!', false) :: inside => (true, inside)
      | _ => (false, rest)
    match elementsAfter [] inside (inside.length + 1) with
    | some (elements, rest) => .set negated elements :: items rest fuel
    | none => .char '[' :: items rest fuel
  | (c, false) :: rest, fuel + 1 => .char c :: items rest fuel

/-- The characters of a pattern, each with whether it is quoted, once a backslash that is not quoted
itself has quoted the character behind it. -/
def unescape : List (Char × Bool) → List (Char × Bool)
  | ('\\', false) :: (c, _) :: rest => (c, true) :: unescape rest
  | first :: rest => first :: unescape rest
  | [] => []

/-- The pattern that characters write, each with whether it is quoted. -/
def ofChars (text : List (Char × Bool)) : List PatternItem :=
  items (unescape text) (text.length + 1)

def isMatch : List PatternItem → Text → Bool
  | [], [] => true
  | [], _ :: _ => false
  | .any :: items, [] => isMatch items []
  | .any :: items, c :: text => isMatch items (c :: text) || isMatch (.any :: items) text
  | _ :: _, [] => false
  | .char d :: items, c :: text => c == d && isMatch items text
  | .one :: items, _ :: text => isMatch items text
  | .set negated elements :: items, c :: text =>
    (elements.any (holds c) != negated) && isMatch items text
termination_by items text => (items.length + text.length)

/-- Whether a pattern has an element that stands for more than itself. -/
def isOpen (pattern : List PatternItem) : Bool :=
  pattern.any fun
    | .char _ => false
    | _ => true

/-- A text without the part at its start that a pattern matches, the shortest or the longest. -/
def withoutStart (longest : Bool) (pattern : List PatternItem) (text : Text) : Text :=
  let cuts := List.range (text.length + 1)
  let cuts := if longest then cuts.reverse else cuts
  match cuts.find? fun n ↦ isMatch pattern (text.take n) with
  | some n => text.drop n
  | none => text

/-- A text without the part at its end that a pattern matches, the shortest or the longest. -/
def withoutEnd (longest : Bool) (pattern : List PatternItem) (text : Text) : Text :=
  let cuts := List.range (text.length + 1)
  let cuts := if longest then cuts else cuts.reverse
  match cuts.find? fun n ↦ isMatch pattern (text.drop n) with
  | some n => text.take n
  | none => text

end Pattern
end ShellDebugger.Script
