import ShellDebugger.Source.Navigator

/-!
# Operations of a navigator

What can be asked of a navigator, as data, so that a history of a navigator is a list: each
operation with the files that it meets, which anybody may change in between, and with the writer
that it prints to. An operation changes navigator and writer in place, one assignment and one write
after another, so what it leaves when it fails depends on what came before.
-/

namespace ShellDebugger.Navigator

abbrev Files := Path → Except IoError Bytes

inductive Operation where
  /-- Points it at the start of a source. -/
  | load (path : Path)
  /-- Lists a page of the source. -/
  | list (request : Request)
  deriving DecidableEq, Repr

structure Outcome where
  result : Except SourceError Unit
  navigator : Navigator
  writer : Writer

/-- What reading the loaded source gives. Without a source nothing is read. -/
def contentIn (nav : Navigator) (files : Files) : Except IoError Bytes :=
  match nav.path with
  | some path => files path
  | none => .ok []

/-- What changes a navigator and a writer in place. Where it fails, both are left as they were
changed until then. -/
abbrev InPlace := EStateM SourceError (Navigator × Writer)

namespace InPlace

def assign (change : Navigator → Navigator) : InPlace Unit :=
  modify fun (nav, out) ↦ (change nav, out)

def write (octets : Bytes) : InPlace Unit := do
  let (nav, out) ← get
  let (written, out) := out.writeAll octets
  set (nav, out)
  ofExcept (written.mapError .io)

def writeRow (width number : Nat) (line : String) : InPlace Unit := do
  write (Utf8.encode (Numeral.rightAligned width number))
  write [0x20]
  write (Utf8.encode line)
  write [Lines.feed]

/-- Prints the page that starts at `start` and then moves the cursor. -/
def print (lines : List String) (start : Nat) : InPlace Unit := do
  let (nav, _) ← get
  let stop := nav.pageEnd lines.length start
  ((lines.take stop).drop start).zipIdx.forM fun (line, i) ↦ writeRow nav.width (start + i + 1) line
  assign fun nav ↦ { nav with cursor := if lines.length ≤ stop then 0 else stop }

def list (files : Files) (request : Request) : InPlace Unit := do
  let (nav, _) ← get
  let lines ← ofExcept (nav.source (nav.contentIn files))
  let start ← ofExcept (nav.start lines request)
  print lines start

def load (files : Files) (path : Path) : InPlace Unit := do
  let total ← ofExcept (countLines (files path))
  assign fun nav ↦ { nav with width := Numeral.digitCount total }
  assign fun nav ↦ { nav with cursor := 0 }
  assign fun nav ↦ { nav with path := some path }

end InPlace

def Operation.inPlace (files : Files) : Operation → InPlace Unit
  | .load path => .load files path
  | .list request => .list files request

/-- Does what is asked, with what that leaves, whether or not it fails. -/
def perform (nav : Navigator) (files : Files) (operation : Operation) (out : Writer) : Outcome :=
  match (operation.inPlace files).run (nav, out) with
  | .ok _ (nav, out) => ⟨.ok (), nav, out⟩
  | .error cause (nav, out) => ⟨.error cause, nav, out⟩

/-- An operation with the files as they are then and the writer that it prints to. -/
structure Step where
  operation : Operation
  files : Files
  out : Writer

def after (nav : Navigator) (step : Step) : Navigator :=
  (nav.perform step.files step.operation step.out).navigator

def afterAll (nav : Navigator) (steps : List Step) : Navigator :=
  steps.foldl after nav

end ShellDebugger.Navigator
