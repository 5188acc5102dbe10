import ShellDebugger.Console.Loop
import ShellDebugger.Schedule
import ShellDebugger.Stream.Outlet

/-!
# The lifetime of the program

The program from the start of its first shell to the end of its process. It makes its calls one
after another, while the relays that they start and the two printers go their own ways, and when it
has nothing left to do all of them stop wherever they are. After the command loop it drops its
senders to the printers and waits for them. When the first shell did not start it does neither.
-/

namespace ShellDebugger

namespace Console

inductive Departure where
  /-- The command loop is over. -/
  | loopEnded (result : Except Failure Unit)
  /-- The first shell did not start, and the error output says why. -/
  | unstarted
  /-- The first shell did not start, and that could not be said. -/
  | unreported (cause : IoError)

namespace Departure

def code : Departure → Nat
  | .loopEnded (.ok _) => 0
  | .loopEnded (.error _) | .unstarted | .unreported _ => 1

/-- Why the program failed, in words. It does not count as failed when it has reported by itself
that the first shell did not start. -/
def failure? : Departure → Option String
  | .loopEnded (.error failure) => some failure.message
  | .unreported cause => some cause.message
  | .loopEnded (.ok _) | .unstarted => none

/-- What is done on the way out, apart from calls. -/
inductive Step where
  /-- Drops the program's own senders to the printers. -/
  | dropSinks
  /-- Waits until a printer has ended. -/
  | joinPrinter (stream : Stream)
  deriving DecidableEq, Repr

/-- What is done when no calls are left. A program that cannot even say that the first shell did not
start drops what it has, but waits for nobody. -/
def steps : Departure → List Step
  | .loopEnded _ => [.dropSinks, .joinPrinter .stdout, .joinPrinter .stderr]
  | .unstarted => []
  | .unreported _ => [.dropSinks]

end Departure

/-- The course of the program: the first shell is started, the loop runs until it ends, and all is
shut down. If the first shell does not start, that is reported, and nothing is read. -/
def courseOf {m : Type → Type} [Monad m] (start : m (Except CommandError Unit × Debugger))
    (report : CommandError → m (Except IoError Unit))
    (loop : Debugger → m (Except Failure Unit × Debugger)) (shutdown : Debugger → m Unit) :
    m Departure := do
  match ← start with
  | (.error e, d) =>
    match ← report e with
    | .ok _ =>
      shutdown d
      return .unstarted
    | .error cause => return .unreported cause
  | (.ok _, d) =>
    let (result, d) ← loop d
    shutdown d
    return .loopEnded result

def reportOf (e : CommandError) : String := s!"{e.message}\n"

/-- The calls of the program, which executes commands on a debugger and prints to an output. -/
def serve (logged : CommandError → String) (d : Debugger) (source : Option Path)
    (output : Debugger.Output) (readings : List Reading) : Plan Departure :=
  courseOf (d.start source) (fun e ↦ return (output.diag.writeAll (Utf8.encode (reportOf e))).1)
    (fun d ↦ do
      let outcome ← run logged d output readings
      return (outcome.result, outcome.debugger))
    (fun d ↦ do let _ ← d.shutdown)

end Console

open Console (Departure)

inductive Lifetime.Program where
  /-- It makes the calls of a plan. -/
  | calling (plan : Plan Departure)
  /-- It has no calls left and does the rest. -/
  | leaving (departure : Departure) (left : List Departure.Step)

structure Lifetime where
  program : Lifetime.Program
  outlets : PerStream Outlet

namespace Lifetime

/-- The program before its first call, with room for some chunks on the way to each printer. -/
def ofPlan (plan : Plan Departure) (capacity : Nat) : Lifetime :=
  ⟨.calling plan, ⟨.ofCapacity capacity, .ofCapacity capacity⟩⟩

def departed (l : Lifetime) : Option Departure :=
  match l.program with
  | .leaving departure [] => some departure
  | _ => none

/-- What a call does to the outlets, given its answer and what a relay that it starts is going to
read, `none` if the program still has to wait. It stops waiting for a relay that has ended or for
which its patience is over. -/
def meet (outlets : PerStream Outlet) (source : List ReadEvent) :
    (c : Call) → c.Answer → Option (PerStream Outlet)
  | .startRelay child stream, _ => some (outlets.update (·.attach child source) stream)
  | .joinRelay child stream, (true : Bool) =>
    if (outlets.get stream).hasRelayed child then some outlets else none
  | .joinRelay child stream, (false : Bool) => some (outlets.update (·.abandon child) stream)
  | _, _ => some outlets

/-- One thing done on the way out, `none` if the program still has to wait. -/
def leave (outlets : PerStream Outlet) : Departure.Step → Option (PerStream Outlet)
  | .dropSinks => some ⟨outlets.stdout.dropSink, outlets.stderr.dropSink⟩
  | .joinPrinter stream => if (outlets.get stream).printer.hasEnded then some outlets else none

inductive Party where
  /-- The program, with the answers that its next call may get and what a relay that this call
  starts is going to read. -/
  | program (answer : (c : Call) → c.Answer) (source : List ReadEvent)
  | outlet (stream : Stream) (party : Outlet.Party)

/-- One action of the program, `none` if it has to wait or has ended. -/
def advance (l : Lifetime) (answer : (c : Call) → c.Answer) (source : List ReadEvent) :
    Option Lifetime :=
  match l.program with
  | .calling (.done departure) => some { l with program := .leaving departure departure.steps }
  | .calling (.ask c next) =>
    (meet l.outlets source c (answer c)).map fun outlets ↦
      ⟨.calling (next (answer c)), outlets⟩
  | .leaving departure (step :: left) =>
    (leave l.outlets step).map fun outlets ↦ ⟨.leaving departure left, outlets⟩
  | .leaving _ [] => none

/-- One action of a party, `none` if it has to wait or has nothing left to do. Nothing acts any more
when the process has ended. -/
def act (party : Party) (l : Lifetime) : Option Lifetime :=
  if l.departed.isSome then none
  else
    match party with
    | .program answer source => l.advance answer source
    | .outlet stream party =>
      ((l.outlets.get stream).act party).map fun o ↦
        { l with outlets := l.outlets.update (fun _ ↦ o) stream }

end Lifetime
end ShellDebugger
