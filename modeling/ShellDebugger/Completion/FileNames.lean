import ShellDebugger.Command.Basic
import ShellDebugger.Host.FileTree

/-!
# Completion

The first word of a line is completed to the names of commands. Another one is completed to file
names. A file name may be written inside an open quotation, single or double, or outside of all with
backslashes before the characters that would end it. The text that stands for the name is taken
back to the name itself, the name is completed from the directory it leads to, and what is put
into the line is written the way the operator began.
-/

namespace ShellDebugger

/-- One way to complete a line: what is shown to the operator, and what is put into the line. -/
structure Candidate where
  display : String
  replacement : String
  deriving DecidableEq, Repr

/-- The ways to complete a line, each of which replaces the text from the octet `start` up to the
cursor. -/
structure Completion where
  start : Nat
  candidates : List Candidate
  deriving DecidableEq, Repr

namespace Completion

/-- The names of the commands that begin with a text, in the order of the table. -/
def commandNames (start : String) : List String :=
  Command.names.filter (·.startsWith start)

def octetCount (text : List Char) : Nat :=
  text.foldr (fun c octets ↦ c.utf8Size + octets) 0

/-- The characters before the cursor, which stands after a number of octets. -/
def before (cursor : Nat) : List Char → List Char
  | [] => []
  | c :: rest => if c.utf8Size ≤ cursor then c :: before (cursor - c.utf8Size) rest else []

/-- Completes the name that ends at the cursor, for a line that has nothing but white space before
it. -/
def ofName (start : Nat) (name : String) : Completion :=
  ⟨start, (commandNames name).map fun n ↦ ⟨n, n ++ " "⟩⟩

end Completion

namespace FileNames

inductive Quotation where
  | none
  | single
  | double
  deriving DecidableEq, Repr

/-- How the characters before the cursor are read. -/
inductive Mode where
  | plain
  | escaped
  | single
  | double
  | doubleEscaped
  deriving DecidableEq, Repr

def Mode.next : Mode → Char → Mode
  | .plain, '"' => .double
  | .plain, '\\' => .escaped
  | .plain, '\'' => .single
  | .plain, _ => .plain
  | .escaped, _ => .plain
  | .single, '\'' => .plain
  | .single, _ => .single
  | .double, '"' => .plain
  | .double, '\\' => .doubleEscaped
  | .double, _ => .double
  | .doubleEscaped, _ => .double

/-- Finds the quotation that is still open, with the text after its mark. `inside` is what stands
after the last mark. -/
def openQuotationAfter (mode : Mode) (inside : List Char) : List Char → Quotation × List Char
  | [] =>
    match mode with
    | .double | .doubleEscaped => (.double, inside.reverse)
    | .single => (.single, inside.reverse)
    | .plain | .escaped => (.none, [])
  | c :: rest =>
    let next := mode.next c
    let opens := mode = .plain ∧ (next = .double ∨ next = .single)
    openQuotationAfter next (if opens then [] else c :: inside) rest

/-- The quotation that is open at the end of a text, with the text after its mark. -/
def openQuotation (head : List Char) : Quotation × List Char :=
  openQuotationAfter .plain [] head

/-- The characters that end a file name outside of quotations. -/
def breakChars : List Char :=
  [' ', '\t', '\n', '"', '\\', '\'', '\x60', '@', '$', '>', '<', '=', ';', '|', '&', '\x7b', '(',
   '\x00']

/-- The characters that have a meaning of their own inside double quotation marks. -/
def doubleSpecialChars : List Char :=
  ['"', '$', '\\', '\x60']

/-- The characters that are written behind a backslash in a quotation. -/
def Quotation.escapedChars : Quotation → List Char
  | .none => breakChars
  | .double => doubleSpecialChars
  | .single => []

def escape (quotation : Quotation) (name : List Char) : List Char :=
  name.flatMap fun c ↦ if quotation.escapedChars.contains c then ['\\', c] else [c]

/-- Reads a text in which a backslash stands before characters to be taken as they are. -/
def unescape : List Char → List Char
  | [] => []
  | ['\\'] => []
  | '\\' :: c :: rest => c :: unescape rest
  | c :: rest => c :: unescape rest

def Quotation.read : Quotation → List Char → List Char
  | .single, text => text
  | _, text => unescape text

/-- The word that ends a text, given from its last character back, in front of `word`: what stands
after the last break character that has no backslash before it. -/
def lastWordBefore (word : List Char) : List Char → List Char
  | [] => word
  | c :: rest =>
    if breakChars.contains c then
      match rest with
      | '\\' :: rest => lastWordBefore ('\\' :: c :: word) rest
      | _ => word
    else lastWordBefore (c :: word) rest

def lastWord (head : List Char) : List Char :=
  lastWordBefore [] head.reverse

/-- The quotation in which the name at the end of a text stands, and how the name is written. -/
def written (head : List Char) : Quotation × List Char :=
  match openQuotation head with
  | (.none, _) => (.none, lastWord head)
  | (quotation, text) => (quotation, text)

/-- Cuts a path after its last separator: the directory with the separator, and the name. -/
def splitPath (path : List Char) : List Char × List Char :=
  let reversed := path.reverse
  let name := reversed.takeWhile (· != '/')
  ((reversed.drop name.length).reverse, name.reverse)

/-- The directory that a text leads to; its first name may be `~` for the home directory. -/
def directory (home : Option Path) (directory : List Char) : Path :=
  match directory, home with
  | '~' :: '/' :: rest, some home =>
    home / Path.ofString (String.ofList (rest.dropWhile (· == '/')))
  | _, _ => if directory.isEmpty then "." else Path.ofString (String.ofList directory)

/-- The names in a directory that begin with a text and lead to a file, each with whether that is a
directory, in the order of their characters. -/
def matching (files : FileTree) (directory : Path) (start : List Char) : List (String × Bool) :=
  match files.find directory with
  | .ok (place, .directory) =>
    let names := (files.namesIn place).filterMap fun octets ↦ do
      let name ← Utf8.decode? octets
      if start.isPrefixOf name.toList then
        let (_, node) ← (files.find (directory / ⟨octets⟩)).toOption
        some (name, node.isDirectory)
      else none
    names.mergeSort fun a b ↦ a.1 ≤ b.1
  | _ => []

/-- Completes the file name at the end of the text before the cursor. -/
def complete (files : FileTree) (home : Option Path) (head : List Char) : Completion :=
  let (quotation, text) := written head
  let (above, start) := splitPath (quotation.read text)
  let candidates := (matching files (directory home above) start).map fun (name, isDirectory) ↦
    let path := above ++ name.toList ++ if isDirectory then ['/'] else []
    (⟨name, String.ofList (escape quotation path)⟩ : Candidate)
  ⟨Completion.octetCount head - Completion.octetCount text, candidates⟩

end FileNames

/-- Completes a line up to the cursor, which stands after a number of octets: the name of a
command, or a file name after `load`. -/
def Completion.ofLine (files : FileTree) (home : Option Path) (line : String) (cursor : Nat) :
    Completion :=
  let head := before cursor line.toList
  let text := head.dropWhile isWhiteSpace
  let name := text.takeWhile (!isWhiteSpace ·)
  if name.length = text.length then
    ofName (octetCount head - octetCount text) (String.ofList name)
  else if name = "load".toList then FileNames.complete files home head
  else ⟨octetCount head, []⟩

end ShellDebugger
