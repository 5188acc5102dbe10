/-!
# The language of scripts

What the lines of a script are made of: words, redirections and commands. A script is handled as
characters each of which stands for one octet, so nothing is lost of what is no text.
-/

namespace ShellDebugger.Script

/-- A text of a script, one character for each octet. -/
abbrev Text := List Char

/-- What an expansion does with its parameter. The flag says whether an empty value counts as
unset, or whether the longest match is removed instead of the shortest. -/
inductive Use where
  | value
  | length
  | orElse (emptyToo : Bool)
  | orAssign (emptyToo : Bool)
  | orFail (emptyToo : Bool)
  | ifSet (emptyToo : Bool)
  | withoutEnd (longest : Bool)
  | withoutStart (longest : Bool)
  deriving DecidableEq, Repr, Inhabited

/-- A part of a word. What is quoted is neither split into fields nor matched against files. -/
inductive Part where
  | literal (text : Text) (quoted : Bool)
  /-- The home directory for which a tilde stands. -/
  | home (text : Text)
  | parameter (name : Text) (use : Use) (argument : List Part) (quoted : Bool)
  | substitution (script : Text) (quoted : Bool)
  | arithmetic (expression : List Part) (quoted : Bool)
  deriving Repr, Inhabited

abbrev Word := List Part

/-- What a redirection does with a descriptor. A here-document is known by its number. -/
inductive Redirection where
  | input (file : Word)
  | output (file : Word)
  /-- Writes to a file whether or not it is there. -/
  | overwrite (file : Word)
  | append (file : Word)
  | readWrite (file : Word)
  | copy (descriptor : Word)
  | document (number : Nat)
  deriving Repr, Inhabited

abbrev Redirect := Nat × Redirection

inductive Command where
  | simple (assignments : List (Text × Word)) (words : List Word) (redirects : List Redirect)
  | pipeline (negated : Bool) (stages : List Command)
  | andThen (first second : Command)
  | orElse (first second : Command)
  | background (command : Command)
  | sequence (commands : List Command)
  | subshell (body : Command)
  | group (body : Command)
  | conditional (condition whenTrue : Command) (whenFalse : Option Command)
  | loop (wanted : Bool) (condition body : Command)
  | each (name : Text) (words : Option (List Word)) (body : Command)
  | choice (subject : Word) (arms : List (List Word × Command))
  | define (name : Text) (body : Command)
  | redirected (body : Command) (redirects : List Redirect)
  deriving Repr, Inhabited

def Command.nothing : Command := .sequence []

def textOf (octets : List UInt8) : Text :=
  octets.map fun o ↦ Char.ofNat o.toNat

def octetsOf (text : Text) : List UInt8 :=
  text.map fun c ↦ UInt8.ofNat c.toNat

def isNameStart (c : Char) : Bool :=
  c.isAlpha || c == '_'

def isNameChar (c : Char) : Bool :=
  c.isAlphanum || c == '_'

def isName : Text → Bool
  | [] => false
  | c :: rest => isNameStart c && rest.all isNameChar

end ShellDebugger.Script
