import ShellDebugger.Script.Grammar

/-!
# Where reading stands

A reader takes characters off what is left of a script. Line continuations may stand between any two
of them. What has arrived of a script may end inside a command; reading then fails as `incomplete`.
-/

namespace ShellDebugger.Script

inductive Fault where
  /-- What is there ends inside a command. -/
  | incomplete
  /-- What is there is no command. -/
  | wrong
  deriving DecidableEq, Repr, Inhabited

structure Awaited where
  number : Nat
  delimiter : Text
  stripTabs : Bool
  literal : Bool
  deriving Repr

structure Source where
  rest : Text
  /-- Whether nothing will follow what is there. -/
  isWhole : Bool
  awaited : List Awaited
  documents : List (Nat × Word)
  nextNumber : Nat
  /-- What stands for some words at the start of a command. -/
  aliases : List (Text × Text)
  /-- The aliases whose text is being read, each with the length of what follows that text. -/
  expanding : List (Text × Nat)
  /-- The length of what follows the text of an alias that wants the next word to be one. -/
  wantsAlias : Option Nat
  deriving Repr

abbrev Read (α : Type) := StateT Source (Except Fault) α

namespace Read

def wrong {α : Type} : Read α := throw .wrong

def incomplete {α : Type} : Read α := throw .incomplete

/-- Drops the line continuations at the start of a text. -/
def joined : Text → Text
  | '\\' :: '\n' :: rest => joined rest
  | text => text

def rest : Read Text := do
  let text := joined (← get).rest
  modify ({ · with rest := text })
  return text

def atEnd : Read Bool := do
  return (← rest).isEmpty

def goTo (text : Text) : Read Unit := modify ({ · with rest := text })

/-- What follows a text at the start of another, whatever line continuations are in between. -/
def after? : Text → Text → Option Text
  | [], text => some text
  | c :: wanted, text =>
    match joined text with
    | d :: rest => if c = d then after? wanted rest else none
    | [] => none

/-- Characters at the start of a text, whatever line continuations are in between, and what follows
them. -/
def span (p : Char → Bool) (read : Text) : Text → Text × Text
  | [] => (read.reverse, [])
  | '\\' :: '\n' :: rest => span p read rest
  | c :: rest => if p c then span p (c :: read) rest else (read.reverse, c :: rest)

def splitLine (text : Text) : Text × Text :=
  (text.takeWhile (· != '\n'), text.dropWhile (· != '\n'))

def skipBlanksIn : Text → Text
  | '\\' :: '\n' :: rest => skipBlanksIn rest
  | c :: rest =>
    if c = ' ' ∨ c = '\t' then skipBlanksIn rest
    else if c = '#' then (c :: rest).dropWhile (· != '\n')
    else c :: rest
  | [] => []

def skipBlanks : Read Unit := do goTo (skipBlanksIn (← rest))

def isNext (text : String) : Read Bool := do
  return (after? text.toList (← rest)).isSome

def take? (text : String) : Read Bool := do
  match after? text.toList (← rest) with
  | some after =>
    goTo after
    return true
  | none => return false

def expect (text : String) : Read Unit := do
  if ← atEnd then incomplete
  unless ← take? text do wrong

end Read
end ShellDebugger.Script
