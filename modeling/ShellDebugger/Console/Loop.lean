import ShellDebugger.Debugger.Basic

/-!
# The command loop

The loop reads one line after another and executes each as a command, until a command leaves, the
lines end, or reading fails. A command that fails adds its error to the error output, one line
each, and the loop goes on.
-/

namespace ShellDebugger.Console

inductive Reading where
  | line (text : String)
  /-- The operator gave the line up. -/
  | interrupted
  /-- There are no more lines. -/
  | ended
  | failed (reason : String)
  deriving DecidableEq, Repr

inductive Failure where
  | reading (reason : String)
  | io (cause : IoError)
  deriving DecidableEq, Repr

def Failure.message : Failure → String
  | .reading reason => s!"readline failed: {reason}"
  | .io cause => cause.message

structure Outcome where
  result : Except Failure Unit
  debugger : Debugger
  output : Debugger.Output
  /-- What was not asked for any more. -/
  unread : List Reading

def farewell : String := "exit\n"

def prompt : String := "(bgw) "

inductive Progress where
  | goesOn
  | ended (result : Except Failure Unit)

/-- The result of a loop that has ended or would end here. -/
def Progress.result : Progress → Except Failure Unit
  | .goesOn => .ok ()
  | .ended result => result

/-- Answers a reading. `logged` is what the log says of a command that failed; it comes before the
error itself. -/
def respond (logged : CommandError → String) (d : Debugger) (output : Debugger.Output) :
    Reading → Plan (Progress × Debugger × Debugger.Output)
  | .ended =>
    let (written, out) := output.out.writeAll (Utf8.encode farewell)
    return (.ended (written.mapError .io), d, { output with out := out })
  | .failed reason => return (.ended (.error (.reading reason)), d, output)
  | .interrupted => return (.goesOn, d, output)
  | .line text =>
    match Command.parse text with
    | none => return (.goesOn, d, output)
    | some command => do
      match ← d.execute command output with
      | (.ok .goOn, d, output) => return (.goesOn, d, output)
      | (.ok .leave, d, output) => return (.ended (.ok ()), d, output)
      | (.error e, d, output) =>
        let (written, diag) := output.diag.writeAll (Utf8.encode (logged e ++ e.message ++ "\n"))
        let output := { output with diag := diag }
        match written with
        | .ok _ => return (.goesOn, d, output)
        | .error cause => return (.ended (.error (.io cause)), d, output)

/-- Reads and executes commands until the loop ends. After the last reading the lines have ended. -/
def run (logged : CommandError → String) (d : Debugger) (output : Debugger.Output) :
    List Reading → Plan Outcome
  | [] => do
    let (progress, d, output) ← respond logged d output .ended
    return ⟨progress.result, d, output, []⟩
  | reading :: rest => do
    match ← respond logged d output reading with
    | (.goesOn, d, output) => run logged d output rest
    | (.ended result, d, output) => return ⟨result, d, output, rest⟩

end ShellDebugger.Console
