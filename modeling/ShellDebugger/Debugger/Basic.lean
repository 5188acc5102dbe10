import ShellDebugger.Command.Basic
import ShellDebugger.Session.Driver
import ShellDebugger.Source.Navigator

/-!
# The debugger

The debugger is a session driver and a navigator, both of which are pointed at one source. Each
command of the operator acts on one of them, except that a load points both at a new source.
-/

namespace ShellDebugger

/-- The session driver and the navigator of one operator. -/
structure Debugger where
  driver : Driver
  navigator : Navigator
  deriving DecidableEq, Repr

inductive Flow where
  | goOn
  | leave
  deriving DecidableEq, Repr

namespace Debugger

/-- A debugger that has nothing yet, for pages of `count` lines. -/
def ofDriver (driver : Driver) (count : Nat) : Debugger :=
  ⟨driver, .ofCount count⟩

def withDriver {α : Type} (d : Debugger) :
    Except SessionError α × Driver → Except CommandError α × Debugger
  | (result, driver) => (result.mapError .session, { d with driver := driver })

/-- Points driver and navigator at a source, or neither. -/
def loadSource (d : Debugger) (path : Path) : Plan (Except CommandError Unit × Debugger) := do
  match ← Driver.checkSource path with
  | .error e => return (.error (.session e), d)
  | .ok _ =>
    match d.navigator.load path (← Plan.call (.read path)) with
    | .error e => return (.error (.source e), d)
    | .ok navigator =>
      match ← d.driver.load path with
      | (.error e, driver) => return (.error (.session e), { d with driver := driver })
      | (.ok _, driver) => return (.ok (), ⟨driver, navigator⟩)

/-- Loads a source, if one is given, and starts the first shell. -/
def start (d : Debugger) (source : Option Path) : Plan (Except CommandError Unit × Debugger) := do
  match source with
  | none => return d.withDriver (← d.driver.start)
  | some path =>
    match ← d.loadSource path with
    | (.error e, d) => return (.error e, d)
    | (.ok _, d) => return d.withDriver (← d.driver.start)

/-- Submits lines in order, up to the first that is refused. -/
def submitLines (driver : Driver) : List String → Plan (Except SessionError Unit × Driver)
  | [] => return (.ok (), driver)
  | line :: rest => do
    match ← driver.submitLine line with
    | (.ok _, driver) => submitLines driver rest
    | (.error e, driver) => return (.error e, driver)

def runSource (d : Debugger) : Plan (Except CommandError Unit × Debugger) := do
  match d.driver.source with
  | none => return (.error (.source .notLoaded), d)
  | some path =>
    match Navigator.readLines (← Plan.call (.read path)) with
    | .error e => return (.error (.source e), d)
    | .ok lines => return d.withDriver (← submitLines d.driver lines)

def content (navigator : Navigator) : Plan (Except IoError Bytes) :=
  match navigator.path with
  | some path => Plan.call (.read path)
  | none => return .ok []

/-- Where a debugger prints: listings go to `out` and help goes to `diag`. -/
structure Output where
  out : Writer
  diag : Writer

def list (d : Debugger) (arguments : List String) (output : Output) :
    Plan (Except CommandError Unit × Debugger × Output) := do
  let request := Navigator.Request.ofArguments arguments
  match d.navigator.list (← content d.navigator) request output.out with
  | (.error e, out) => return (.error (.source e), d, { output with out := out })
  | (.ok navigator, out) =>
    let (flushed, out) := out.flush
    return (flushed.mapError .io, { d with navigator := navigator }, { output with out := out })

def execute (d : Debugger) (command : Command) (output : Output) :
    Plan (Except CommandError Flow × Debugger × Output) := do
  let goOn (result : Except CommandError Unit × Debugger) :
      Except CommandError Flow × Debugger × Output :=
    (result.1.map fun _ ↦ .goOn, result.2, output)
  match command with
  | .help =>
    let (written, diag) := output.diag.writeAll (Utf8.encode Command.helpText)
    let result := (written.mapError CommandError.io).map fun _ ↦ Flow.goOn
    return (result, d, { output with diag := diag })
  | .exit => return (.ok .leave, d, output)
  | .load none => return (.error .noFile, d, output)
  | .load (some path) =>
    match ← d.loadSource path with
    | (.error e, d) => return (.error e, d, output)
    | (.ok _, d) => return goOn (d.withDriver (← d.driver.reload))
  | .list arguments =>
    let (result, d, output) ← d.list arguments output
    return (result.map fun _ ↦ .goOn, d, output)
  | .run => return goOn (← d.runSource)
  | .send words => return goOn (d.withDriver (← d.driver.submit words))
  | .notImplemented name => return (.error (.notImplemented name), d, output)
  | .unknown name => return (.error (.unknown name), d, output)

def shutdown (d : Debugger) : Plan Debugger := do
  return { d with driver := ← d.driver.close }

end Debugger
end ShellDebugger
