import ShellDebugger.Host.IoError
import ShellDebugger.Host.Path
import ShellDebugger.Stream.Writer
import ShellDebugger.Text.Numeral
import ShellDebugger.Text.Utf8
import ShellDebugger.Text.Words

/-!
# Listing a source

A navigator points at a source file and remembers where the next page starts. A page is a number
of rows, each a line behind its number; the numbers are right-aligned to the width of the greatest
one. After the last line the listing starts again at the first. The file is read for each page, so
a page shows what the file holds now.

Lines end in LF; a file's last line may lack it. A line is the text before its LF, less one CR at
its end.
-/

namespace ShellDebugger

namespace Lines

def feed : UInt8 := 0x0A

def carriage : UInt8 := 0x0D

/-- The pieces of a content when `current` is read of one, last octet first, and `done` are the
pieces before it, last piece first. -/
def piecesAfter (done : List Bytes) (current : Bytes) : Bytes → List Bytes
  | [] => (if current.isEmpty then done else current.reverse :: done).reverse
  | octet :: rest =>
    if octet = feed then piecesAfter (current.reverse :: done) [] rest
    else piecesAfter done (octet :: current) rest

/-- The pieces of a content that LF ends, with what follows the last LF if that is not empty. -/
def pieces (content : Bytes) : List Bytes :=
  piecesAfter [] [] content

def withoutCarriage (piece : Bytes) : Bytes :=
  if piece.getLast? = some carriage then piece.dropLast else piece

/-- The lines of a content, decoded with U+FFFD for what is not text. -/
def ofContent (content : Bytes) : List String :=
  (pieces content).map fun piece ↦ Utf8.decodeLossy (withoutCarriage piece)

/-- The number of lines of a content when `done` lines have been counted and a line has been begun
or not. -/
def countAfter (done : Nat) (begun : Bool) : Bytes → Nat
  | [] => if begun then done + 1 else done
  | octet :: rest =>
    if octet = feed then countAfter (done + 1) false rest else countAfter done true rest

/-- The number of lines of a content, which is found without making the lines. -/
def count (content : Bytes) : Nat :=
  countAfter 0 false content

end Lines

inductive SourceError where
  /-- No source has been loaded. -/
  | notLoaded
  /-- The requested line lies past the end of the file. -/
  | lineOutOfRange (line total : Nat)
  /-- No line has the keyword. -/
  | keywordNotFound (keyword : String)
  /-- Reading the file or writing the page failed. -/
  | io (cause : IoError)
  deriving DecidableEq, Repr

def SourceError.message : SourceError → String
  | .notLoaded => "file not loaded"
  | .lineOutOfRange line total => s!"line number {line} out of range; file has {total} lines"
  | .keywordNotFound keyword => s!"keyword not found: {keyword}"
  | .io cause => s!"I/O error: {cause.message}"

/-- The source being listed and the place in it. -/
structure Navigator where
  /-- The source, if one was loaded. -/
  path : Option Path
  /-- The columns of a line number. -/
  width : Nat
  /-- The index of the line that the next page starts with. -/
  cursor : Nat
  /-- The most lines of a page. -/
  count : Nat
  deriving DecidableEq, Repr

namespace Navigator

def ofCount (count : Nat) : Navigator := ⟨none, 1, 0, count⟩

def readLines (content : Except IoError Bytes) : Except SourceError (List String) :=
  (content.map Lines.ofContent).mapError .io

/-- The number of lines of a source, from what reading its file gave. -/
def countLines (content : Except IoError Bytes) : Except SourceError Nat :=
  (content.map Lines.count).mapError .io

/-- Points the navigator at the start of a source, given what reading its file gave. -/
def load (nav : Navigator) (path : Path) (content : Except IoError Bytes) :
    Except SourceError Navigator := do
  let total ← countLines content
  return { nav with path := some path, width := Numeral.digitCount total, cursor := 0 }

/-- The lines of the loaded source, given what reading its file gave. -/
def source (nav : Navigator) (content : Except IoError Bytes) : Except SourceError (List String) :=
  match nav.path with
  | some _ => readLines content
  | none => .error .notLoaded

def row (width number : Nat) (line : String) : Bytes :=
  Utf8.encode (Numeral.rightAligned width number) ++ 0x20 :: Utf8.encode line ++ [Lines.feed]

/-- The index after the last line of the page that starts at `start`. -/
def pageEnd (nav : Navigator) (total start : Nat) : Nat :=
  min (min (start + nav.count) (Numeral.bound - 1)) total

/-- The rows of the page that starts at `start`. -/
def page (nav : Navigator) (lines : List String) (start : Nat) : List Bytes :=
  ((lines.take (nav.pageEnd lines.length start)).drop start).zipIdx.map fun (line, i) ↦
    row nav.width (start + i + 1) line

/-- Writes rows in order, up to the first that the writer does not take. -/
def writeRows (out : Writer) : List Bytes → Except IoError Unit × Writer
  | [] => (.ok (), out)
  | row :: rest =>
    match out.writeAll row with
    | (.ok _, out) => writeRows out rest
    | (.error cause, out) => (.error cause, out)

/-- Prints the page that starts at `start`. Only when all of it is written does the navigator move,
to the line after the page or, if there is none, to the first. -/
def printPage (nav : Navigator) (lines : List String) (start : Nat) (out : Writer) :
    Except SourceError Navigator × Writer :=
  match writeRows out (nav.page lines start) with
  | (.error cause, out) => (.error (.io cause), out)
  | (.ok _, out) =>
    let stop := nav.pageEnd lines.length start
    (.ok { nav with cursor := if lines.length ≤ stop then 0 else stop }, out)

inductive Request where
  /-- The page after the last one. -/
  | next
  /-- The page that starts with a line, counted from one. -/
  | line (number : Nat)
  /-- The page that starts with the first line that has the keyword. -/
  | keyword (keyword : String)
  deriving DecidableEq, Repr

/-- What the arguments of a listing ask for: a numeral asks for a line and any other word for a
keyword. Only the first counts. -/
def Request.ofArguments : List String → Request
  | [] => .next
  | argument :: _ =>
    match Numeral.parse? argument with
    | some number => .line number
    | none => .keyword argument

def start (nav : Navigator) (lines : List String) : Request → Except SourceError Nat
  | .next => .ok nav.cursor
  | .line number =>
    let start := number - 1
    if lines.length ≤ start ∧ lines ≠ [] then .error (.lineOutOfRange number lines.length)
    else .ok start
  | .keyword keyword =>
    match lines.findIdx? (Words.contains · keyword) with
    | some start => .ok start
    | none => .error (.keywordNotFound keyword)

/-- Lists a page, given what reading the source's file gave: the navigator after it, or why there
is none, and the writer. -/
def list (nav : Navigator) (content : Except IoError Bytes) (request : Request) (out : Writer) :
    Except SourceError Navigator × Writer :=
  match nav.source content with
  | .error cause => (.error cause, out)
  | .ok lines =>
    match nav.start lines request with
    | .error cause => (.error cause, out)
    | .ok start => nav.printPage lines start out

end Navigator
end ShellDebugger
