import ShellDebugger.Script.Reader.Source

/-!
# Reading words

A word is read with its quotations and expansions. What is in the parentheses of a substitution is a
script, so the reader of commands is a parameter.
-/

namespace ShellDebugger.Script.Read

def endsWord (c : Char) : Bool :=
  [' ', '\t', '\n', ';', '&', '|', '<', '>', '(', ')'].contains c

/-- The script between back quotes. A backslash protects another, a dollar and a back quote, and
inside a quotation a quotation mark. -/
def backQuoted (quoted : Bool) (inside : Text) : Text → Option (Text × Text)
  | [] => none
  | '\\' :: c :: text =>
    if c = '\n' then backQuoted quoted inside text
    else if c = '\\' ∨ c = '$' ∨ c = '\x60' ∨ (quoted ∧ c = '"') then
      backQuoted quoted (c :: inside) text
    else backQuoted quoted (c :: '\\' :: inside) text
  | c :: text =>
    if c = '\x60' then some (inside.reverse, text) else backQuoted quoted (c :: inside) text

def pushChar (c : Char) (quoted : Bool) : List Part → List Part
  | .literal text q :: parts =>
    if q = quoted then .literal (c :: text) q :: parts
    else .literal [c] quoted :: .literal text q :: parts
  | parts => .literal [c] quoted :: parts

/-- A word whose parts, and the characters of its literals, were collected last to first. -/
def finish (parts : List Part) : Word :=
  parts.reverse.map fun
    | .literal text quoted => .literal text.reverse quoted
    | part => part

/-- Where a word is read, which decides what ends it. -/
inductive Place where
  /-- In the open. -/
  | plain
  /-- Between double quotation marks. -/
  | quoted
  /-- In the braces of an expansion, in double quotation marks or not. -/
  | braces (inQuotation : Bool)
  /-- In a here-document, to the end of the text. -/
  | document
  /-- In an arithmetic expression, in as many of its parentheses. -/
  | arithmetic (depth : Nat)
  deriving DecidableEq, Repr

def Place.isQuoted : Place → Bool
  | .plain => false
  | .quoted => true
  | .braces inQuotation => inQuotation
  | .document | .arithmetic _ => true

def useOf (c : Char) (emptyToo : Bool) : Option Use :=
  match c with
  | '-' => some (.orElse emptyToo)
  | '=' => some (.orAssign emptyToo)
  | '?' => some (.orFail emptyToo)
  | '+' => some (.ifSet emptyToo)
  | _ => none

/-- The characters that are the names of parameters. -/
def isSpecialName (c : Char) : Bool :=
  ['@', '*', '#', '?', '-', '$', '!'].contains c

def parameterName (text : Text) : Text × Text :=
  match joined text with
  | [] => ([], [])
  | c :: rest =>
    if isNameStart c then span isNameChar [] (c :: rest)
    else if c.isDigit then span Char.isDigit [] (c :: rest)
    else if isSpecialName c then ([c], rest)
    else ([], c :: rest)

def steps : Nat := 1000000

/-- Whether a quotation holds all the arguments and nothing else. It makes as many fields as there
are arguments, so none if there are none; every other quotation makes a field even if it is empty.
-/
def isArgumentsAlone : List Part → Bool
  | [.parameter ['@'] .value [] _] => true
  | _ => false

/-- Reads a script up to the parenthesis that closes its substitution, by a reader of commands: the
text of the script. -/
def enclosed (commands : Read Unit) : Read Text := do
  let source ← get
  set { source with awaited := [], aliases := [] }
  commands
  let inside := (← get).rest
  expect ")"
  modify ({ · with awaited := source.awaited, aliases := source.aliases })
  return source.rest.take (source.rest.length - inside.length)

mutual

/-- Reads the parts of a word up to what ends it, behind those in `parts`. -/
def partsAfter (commands : Read Unit) (place : Place) (parts : List Part) : Nat → Read (List Part)
  | 0 => wrong
  | fuel + 1 => do
    match ← rest with
    | [] => if place = .document ∨ place = .plain then return parts else incomplete
    | '\\' :: c :: text =>
      goTo text
      match place with
      | .plain | .braces false => partsAfter commands place (pushChar c true parts) fuel
      | _ =>
        let mark := place = .quoted ∨ place = .braces true
        let escaped := ['$', '\x60', '\\'].contains c ∨ (c = '"' ∧ mark) ∨
          (c = '\x7d' ∧ place = .braces true)
        if escaped then partsAfter commands place (pushChar c true parts) fuel
        else partsAfter commands place (pushChar c true (pushChar '\\' true parts)) fuel
    | ['\\'] => if place = .document then return pushChar '\\' true parts else incomplete
    | '$' :: text =>
      goTo text
      match ← dollar commands place.isQuoted fuel with
      | some part => partsAfter commands place (part :: parts) fuel
      | none => partsAfter commands place (pushChar '$' place.isQuoted parts) fuel
    | '\'' :: text =>
      if place = .plain ∨ place = .braces false then
        let inside := text.takeWhile (· != '\'')
        if inside.length = text.length then incomplete
        goTo (text.drop (inside.length + 1))
        let parts := match inside with
          | [] => .literal [] true :: parts
          | _ => inside.foldl (fun parts c ↦ pushChar c true parts) parts
        partsAfter commands place parts fuel
      else
        goTo text
        partsAfter commands place (pushChar '\'' true parts) fuel
    | '"' :: text =>
      goTo text
      match place with
      | .plain | .braces _ =>
        let inside ← partsAfter commands .quoted [] fuel
        expect "\""
        let parts := if isArgumentsAlone inside then parts else .literal [] true :: parts
        partsAfter commands place (inside ++ parts) fuel
      | .quoted =>
        goTo ('"' :: text)
        return parts
      | .document | .arithmetic _ =>
        partsAfter commands place (pushChar '"' true parts) fuel
    | c :: text =>
      if c = '\x60' then
        match backQuoted place.isQuoted [] text with
        | none => incomplete
        | some (script, text) =>
          goTo text
          partsAfter commands place (.substitution script place.isQuoted :: parts) fuel
      else
        match place with
        | .plain =>
          if endsWord c then return parts
          goTo text
          partsAfter commands place (pushChar c false parts) fuel
        | .braces _ =>
          if c = '\x7d' then return parts
          goTo text
          partsAfter commands place (pushChar c place.isQuoted parts) fuel
        | .arithmetic depth =>
          if c = ')' ∧ depth = 0 ∧ (after? [')'] text).isSome then return parts
          if c = ')' ∧ depth = 0 ∧ (joined text).isEmpty then incomplete
          goTo text
          let depth := if c = '(' then depth + 1 else if c = ')' then depth - 1 else depth
          partsAfter commands (.arithmetic depth) (pushChar c true parts) fuel
        | .quoted | .document =>
          goTo text
          partsAfter commands place (pushChar c true parts) fuel

/-- Reads what follows a dollar, `none` if that is only itself. -/
def dollar (commands : Read Unit) (quoted : Bool) : Nat → Read (Option Part)
  | 0 => wrong
  | fuel + 1 => do
    match ← rest with
    | '(' :: text =>
      match joined text with
      | '(' :: text =>
        goTo text
        let parts ← partsAfter commands (.arithmetic 0) [] fuel
        expect "))"
        return some (.arithmetic (finish parts) quoted)
      | text =>
        goTo text
        return some (.substitution (← enclosed commands) quoted)
    | '\x7b' :: text =>
      goTo text
      return some (← braces commands quoted fuel)
    | c :: text =>
      if isNameStart c then
        let (name, text) := span isNameChar [] (c :: text)
        goTo text
        return some (.parameter name .value [] quoted)
      else if c.isDigit ∨ isSpecialName c then
        goTo text
        return some (.parameter [c] .value [] quoted)
      else return none
    | [] => return none

def braces (commands : Read Unit) (quoted : Bool) : Nat → Read Part
  | 0 => wrong
  | fuel + 1 => do
    match ← rest with
    | '#' :: text =>
      let (name, text) := parameterName text
      if let some text := after? ['\x7d'] text then
        unless name.isEmpty do
          goTo text
          return .parameter name .length [] quoted
    | _ => pure ()
    let (name, text) := parameterName (← rest)
    let text := joined text
    if name.isEmpty then
      if text.isEmpty then incomplete else wrong
    match text with
    | [] => incomplete
    | '\x7d' :: text =>
      goTo text
      return .parameter name .value [] quoted
    | '%' :: text =>
      match joined text with
      | '%' :: text => argument commands name (.withoutEnd true) text (.braces false) quoted fuel
      | text => argument commands name (.withoutEnd false) text (.braces false) quoted fuel
    | '#' :: text =>
      match joined text with
      | '#' :: text => argument commands name (.withoutStart true) text (.braces false) quoted fuel
      | text => argument commands name (.withoutStart false) text (.braces false) quoted fuel
    | ':' :: text =>
      match joined text with
      | [] => incomplete
      | c :: text =>
        match useOf c true with
        | some use => argument commands name use text (.braces quoted) quoted fuel
        | none => wrong
    | c :: text =>
      match useOf c false with
      | some use => argument commands name use text (.braces quoted) quoted fuel
      | none => wrong

/-- Reads the word or the pattern of an expansion and the brace that closes it. -/
def argument (commands : Read Unit) (name : Text) (use : Use) (text : Text) (place : Place)
    (quoted : Bool) : Nat → Read Part
  | 0 => wrong
  | fuel + 1 => do
    goTo text
    let parts ← partsAfter commands place [] fuel
    expect "\x7d"
    return .parameter name use (finish parts) quoted

end

def word? (commands : Read Unit) : Read (Option Word) := do
  skipBlanks
  match ← rest with
  | [] => return none
  | c :: _ =>
    if endsWord c then return none
    return some (finish (← partsAfter commands .plain [] steps))

def word (commands : Read Unit) : Read Word := do
  match ← word? commands with
  | some w => return w
  | none => if ← atEnd then incomplete else wrong

end ShellDebugger.Script.Read
