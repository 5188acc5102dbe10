import ShellDebugger.Script.Reader.Word

/-!
# Reading scripts

A script is read one complete command at a time: the commands of one line, with as many lines more
as its compound commands, quotations and here-documents need. If what has arrived ends before that,
reading is tried again when there is more.
-/

namespace ShellDebugger.Script.Read

/-- The text of a word that is written without quotations and expansions. -/
def bareText? : Word → Option Text
  | [.literal text false] => some text
  | _ => none

/-- The characters of which the words are made that mean something at the start of a command. -/
def isPlainChar (c : Char) : Bool :=
  !(endsWord c || ['\'', '"', '$', '\x60', '\\'].contains c)

/-- The bare word that comes next, which is not taken. -/
def peekBare : Read (Option Text) := do
  skipBlanks
  let (text, after) := span isPlainChar [] (← rest)
  match after with
  | [] => return if text.isEmpty then none else some text
  | c :: _ => return if text.isEmpty ∨ !endsWord c then none else some text

def takeBare : Read Unit := do
  goTo (span isPlainChar [] (← rest)).2

def reserved? (text : String) : Read Bool := do
  if (← peekBare) = some text.toList then
    takeBare
    return true
  return false

def reserved (text : String) : Read Unit := do
  unless ← reserved? text do
    if ← atEnd then incomplete else wrong

def closers : List String :=
  ["then", "else", "elif", "fi", "do", "done", "esac", "\x7d", "in"]

/-- The words that mean something at the start of a command, for which no alias stands. -/
def keywords : List String :=
  closers ++ ["!", "\x7b", "if", "while", "until", "for", "case"]

/-- Puts the text of aliases in the place of the bare word that comes next. -/
def expandAliases : Nat → Read Unit
  | 0 => wrong
  | fuel + 1 => do
    let source ← get
    unless source.aliases.isEmpty do
      if let some name ← peekBare then
        if let some text := source.aliases.lookup name then
          let start := (← rest).length
          let isUsed := source.expanding.any fun (n, length) ↦ n == name && length < start
          unless isUsed || keywords.contains (String.ofList name) do
            takeBare
            let after := (← get).rest
            let isOpen := text.getLast?.any fun c ↦ c == ' ' || c == '\t'
            modify ({ · with
              rest := text ++ after
              expanding := (name, after.length) :: source.expanding
              wantsAlias := if isOpen then some after.length else source.wantsAlias })
            expandAliases fuel

/-- Puts the text of aliases in the place of the next word if an alias before it wants that. -/
def expandWanted : Read Unit := do
  let source ← get
  if let some length := source.wantsAlias then
    skipBlanks
    if (← rest).length ≤ length then
      modify ({ · with wantsAlias := none })
      expandAliases steps

/-- Whether a text has a quotation, which keeps a here-document from being expanded. -/
def isQuotedWord (w : Word) : Bool :=
  w.any fun
    | .literal _ quoted => quoted
    | _ => false

def literalText (w : Word) : Text :=
  w.flatMap fun
    | .literal text _ => text
    | _ => []

def continues (line : Text) : Bool :=
  (line.reverse.takeWhile (· == '\\')).length % 2 == 1

/-- Cuts the lines of a here-document off a text; `isStart` says that a line starts here. What is
expanded may have lines that go on in the next one. A whole text may end without the delimiter. The
lines before are in `lines`, last line first. -/
def documentLines (doc : Awaited) (isWhole : Bool) (lines : List Text) (isStart : Bool)
    (text : Text) : Nat → Option (Text × Text)
  | 0 => none
  | fuel + 1 =>
    let text := if doc.stripTabs && isStart then text.dropWhile (· == '\t') else text
    let (line, after) := splitLine text
    let ends := isStart && line == doc.delimiter
    match after with
    | [] =>
      if isWhole then some ((if ends then lines else line :: lines).reverse.flatten, []) else none
    | _ :: after =>
      if ends then some (lines.reverse.flatten, after)
      else
        let isStart := doc.literal || !continues line
        documentLines doc isWhole (['\n'] :: line :: lines) isStart after fuel

/-- Reads the here-documents that are awaited, at the start of a line. -/
def documents (commands : Read Unit) : Read Unit := do
  let source ← get
  for doc in source.awaited do
    let text := (← get).rest
    match documentLines doc source.isWhole [] true text steps with
    | none => incomplete
    | some (body, after) =>
      let parts ← if doc.literal then pure [Part.literal body true]
        else do
          goTo body
          let parts ← try partsAfter commands .document [] steps catch _ => wrong
          pure (finish parts)
      modify fun s ↦ { s with rest := after, documents := (doc.number, parts) :: s.documents }
  modify ({ · with awaited := [] })

/-- Takes a line feed, and the here-documents behind it, if it comes next. -/
def lineEnd? (commands : Read Unit) : Read Bool := do
  skipBlanks
  if ← take? "\n" then
    documents commands
    return true
  return false

def skipLines (commands : Read Unit) : Nat → Read Unit
  | 0 => return ()
  | fuel + 1 => do if ← lineEnd? commands then skipLines commands fuel

def lines (commands : Read Unit) : Read Unit := skipLines commands steps

/-- The number of a descriptor, if a digit stands right before a redirection. -/
def descriptor? : Read (Option Nat) := do
  match ← rest with
  | digit :: text =>
    match joined text with
    | c :: text =>
      if digit.isDigit ∧ (c = '<' ∨ c = '>') then
        goTo (c :: text)
        return some (digit.toNat - '0'.toNat)
      return none
    | [] => return none
  | [] => return none

def redirect? (commands : Read Unit) : Read (Option Redirect) := do
  skipBlanks
  let here ← get
  let number ← descriptor?
  let document (stripTabs : Bool) : Read (Option Redirect) := do
    let w ← word commands
    let source ← get
    let doc : Awaited := ⟨source.nextNumber, literalText w, stripTabs, isQuotedWord w⟩
    set { source with awaited := source.awaited ++ [doc], nextNumber := source.nextNumber + 1 }
    return some (number.getD 0, .document doc.number)
  let file (default : Nat) (make : Word → Redirection) : Read (Option Redirect) := do
    return some (number.getD default, make (← word commands))
  if ← take? "<<-" then document true
  else if ← take? "<<" then document false
  else if ← take? "<&" then file 0 .copy
  else if ← take? "<>" then file 0 .readWrite
  else if ← take? "<" then file 0 .input
  else if ← take? ">>" then file 1 .append
  else if ← take? ">&" then file 1 .copy
  else if ← take? ">|" then file 1 .overwrite
  else if ← take? ">" then file 1 .output
  else
    set here
    return none

def redirectsAfter (commands : Read Unit) (read : List Redirect) : Nat → Read (List Redirect)
  | 0 => wrong
  | fuel + 1 => do
    match ← redirect? commands with
    | some r => redirectsAfter commands (r :: read) fuel
    | none => return read.reverse

def assignment? : Word → Option (Text × Word)
  | .literal text false :: parts =>
    let name := text.takeWhile (· != '=')
    if isName name ∧ name.length < text.length then
      let value := text.drop (name.length + 1)
      some (name, if value.isEmpty then parts else .literal value false :: parts)
    else none
  | _ => none

structure Simple where
  assignments : List (Text × Word)
  words : List Word
  redirects : List Redirect

/-- Reads the words, assignments and redirections of a simple command. -/
def simpleAfter (commands : Read Unit) (s : Simple) : Nat → Read Simple
  | 0 => wrong
  | fuel + 1 => do
    match ← redirect? commands with
    | some r => simpleAfter commands { s with redirects := r :: s.redirects } fuel
    | none =>
      if s.words.isEmpty then expandAliases fuel else expandWanted
      match ← word? commands with
      | none => return ⟨s.assignments.reverse, s.words.reverse, s.redirects.reverse⟩
      | some w =>
        match s.words, assignment? w with
        | [], some a => simpleAfter commands { s with assignments := a :: s.assignments } fuel
        | _, _ => simpleAfter commands { s with words := w :: s.words } fuel

/-- The commands of the interpreter that no function may be called like. -/
def reservedNames : List String :=
  [".", ":", "break", "continue", "eval", "exec", "exit", "export", "local", "readonly", "return",
   "set", "shift", "times", "trap", "unset"]

/-- Wraps a compound command in the redirections behind it. -/
def withRedirects (commands : Read Unit) (c : Command) : Read Command := do
  match ← redirectsAfter commands [] steps with
  | [] => return c
  | rs => return .redirected c rs

/-- Reads the words of a loop over words, up to what ends them. -/
def wordsAfter (commands : Read Unit) (read : List Word) : Nat → Read (List Word)
  | 0 => wrong
  | fuel + 1 => do
    match ← word? commands with
    | some w => wordsAfter commands (w :: read) fuel
    | none => return read.reverse

/-- Reads the patterns of an arm, up to the closing parenthesis. -/
def patternsAfter (commands : Read Unit) (read : List Word) : Nat → Read (List Word)
  | 0 => wrong
  | fuel + 1 => do
    let w ← word commands
    skipBlanks
    if ← take? "|" then patternsAfter commands (w :: read) fuel
    else
      expect ")"
      return (w :: read).reverse

mutual

/-- Reads the script of a substitution up to the parenthesis that closes it. -/
def inside : Nat → Read Unit
  | 0 => wrong
  | fuel + 1 => do
    let _ ← listAfter [")"] [] fuel

/-- Reads commands on one or several lines up to a word of `stops`, or to the end of the line if
there are none. -/
def listAfter (stops : List String) (read : List Command) : Nat → Read (List Command)
  | 0 => wrong
  | fuel + 1 => do
    let nested := !stops.isEmpty
    if nested then lines (inside fuel) else skipBlanks
    if ← atEnd then
      if nested then incomplete else return read.reverse
    else if ← isNext ")" then
      if stops.contains ")" then return read.reverse else wrong
    else if ← isNext ";;" then
      if stops.contains ";;" then return read.reverse else wrong
    else if ← isNext "\n" then return read.reverse
    else
      expandAliases fuel
      if let some bare ← peekBare then
        if stops.contains (String.ofList bare) then return read.reverse
      let c ← andOr fuel
      skipBlanks
      if ← atEnd then
        if nested then incomplete else return (c :: read).reverse
      else if ← isNext ";;" then
        if stops.contains ";;" then return (c :: read).reverse else wrong
      else if ← take? ";" then listAfter stops (c :: read) fuel
      else if ← take? "&" then listAfter stops (.background c :: read) fuel
      else if ← isNext "\n" then
        if nested then listAfter stops (c :: read) fuel else return (c :: read).reverse
      else if ← isNext ")" then
        if stops.contains ")" then return (c :: read).reverse else wrong
      else wrong

/-- Reads the commands of a compound command up to a word of `stops`, at least one. -/
def body (stops : List String) : Nat → Read Command
  | 0 => wrong
  | fuel + 1 => do
    match ← listAfter stops [] fuel with
    | [] => wrong
    | [c] => return c
    | cs => return .sequence cs

def andOr : Nat → Read Command
  | 0 => wrong
  | fuel + 1 => do andOrAfter (← pipeline fuel) fuel

/-- Reads what follows a pipeline between `&&` and `||`. -/
def andOrAfter (first : Command) : Nat → Read Command
  | 0 => wrong
  | fuel + 1 => do
    skipBlanks
    if ← take? "&&" then
      lines (inside fuel)
      let second ← pipeline fuel
      andOrAfter (.andThen first second) fuel
    else if ← take? "||" then
      lines (inside fuel)
      let second ← pipeline fuel
      andOrAfter (.orElse first second) fuel
    else return first

def pipeline : Nat → Read Command
  | 0 => wrong
  | fuel + 1 => do
    expandAliases fuel
    let negated ← reserved? "!"
    let stages ← stagesAfter [] fuel
    match negated, stages with
    | false, [c] => return c
    | _, _ => return .pipeline negated stages

def stagesAfter (read : List Command) : Nat → Read (List Command)
  | 0 => wrong
  | fuel + 1 => do
    let c ← command fuel
    skipBlanks
    if ← isNext "||" then return (c :: read).reverse
    else if ← take? "|" then
      lines (inside fuel)
      stagesAfter (c :: read) fuel
    else return (c :: read).reverse

/-- Reads a command: a compound one, the definition of a function, or a simple one. -/
def command : Nat → Read Command
  | 0 => wrong
  | fuel + 1 => do
    expandAliases fuel
    skipBlanks
    if ← atEnd then incomplete
    else if ← take? "(" then
      let c ← body [")"] fuel
      expect ")"
      withRedirects (inside fuel) (.subshell c)
    else
      match (← peekBare).map String.ofList with
      | some "\x7b" =>
        takeBare
        let c ← body ["\x7d"] fuel
        reserved "\x7d"
        withRedirects (inside fuel) (.group c)
      | some "if" =>
        takeBare
        withRedirects (inside fuel) (← conditional fuel)
      | some "while" =>
        takeBare
        let condition ← body ["do"] fuel
        withRedirects (inside fuel) (.loop true condition (← doBody fuel))
      | some "until" =>
        takeBare
        let condition ← body ["do"] fuel
        withRedirects (inside fuel) (.loop false condition (← doBody fuel))
      | some "for" =>
        takeBare
        withRedirects (inside fuel) (← eachLoop fuel)
      | some "case" =>
        takeBare
        withRedirects (inside fuel) (← choice fuel)
      | bare =>
        if bare.any fun name ↦ name == "!" || closers.contains name then wrong
        simple fuel

def doBody : Nat → Read Command
  | 0 => wrong
  | fuel + 1 => do
    reserved "do"
    let c ← body ["done"] fuel
    reserved "done"
    return c

def conditional : Nat → Read Command
  | 0 => wrong
  | fuel + 1 => do
    let condition ← body ["then"] fuel
    reserved "then"
    let whenTrue ← body ["elif", "else", "fi"] fuel
    if ← reserved? "elif" then
      return .conditional condition whenTrue (some (← conditional fuel))
    let whenFalse ← if ← reserved? "else" then some <$> body ["fi"] fuel else pure none
    reserved "fi"
    return .conditional condition whenTrue whenFalse

def eachLoop : Nat → Read Command
  | 0 => wrong
  | fuel + 1 => do
    let some name := bareText? (← word (inside fuel)) | wrong
    unless isName name do wrong
    lines (inside fuel)
    let words ← if ← reserved? "in" then some <$> wordsAfter (inside fuel) [] fuel else pure none
    skipBlanks
    let _ ← take? ";"
    lines (inside fuel)
    return .each name words (← doBody fuel)

def choice : Nat → Read Command
  | 0 => wrong
  | fuel + 1 => do
    let subject ← word (inside fuel)
    lines (inside fuel)
    reserved "in"
    return .choice subject (← armsAfter [] fuel)

def armsAfter (read : List (List Word × Command)) : Nat → Read (List (List Word × Command))
  | 0 => wrong
  | fuel + 1 => do
    lines (inside fuel)
    if ← reserved? "esac" then return read.reverse
    skipBlanks
    let _ ← take? "("
    let patterns ← patternsAfter (inside fuel) [] fuel
    let c := Command.sequence (← listAfter [";;", "esac"] [] fuel)
    skipBlanks
    let _ ← take? ";;"
    armsAfter ((patterns, c) :: read) fuel

def simple : Nat → Read Command
  | 0 => wrong
  | fuel + 1 => do
    let s ← simpleAfter (inside fuel) ⟨[], [], []⟩ fuel
    skipBlanks
    match s.words, s.assignments, s.redirects with
    | [], [], [] => if ← atEnd then incomplete else wrong
    | [name], [], [] =>
      if ← take? "(" then
        skipBlanks
        expect ")"
        lines (inside fuel)
        let some name := bareText? name | wrong
        unless isName name ∧ !reservedNames.contains (String.ofList name) do wrong
        return .define name (← command fuel)
      return .simple [] [name] []
    | _, _, _ => return .simple s.assignments s.words s.redirects

end

/-- Reads the commands of the next line that has any, `none` if nothing but blanks is left. -/
def next : Read (Option Command) := do
  lines (inside steps)
  if ← atEnd then return none
  let cs ← listAfter [] [] steps
  if ← atEnd then incomplete
  unless ← lineEnd? (inside steps) do wrong
  return some (.sequence cs)

end ShellDebugger.Script.Read
