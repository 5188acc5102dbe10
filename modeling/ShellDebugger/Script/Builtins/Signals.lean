import ShellDebugger.Host.Exit
import ShellDebugger.Script.Builtins.Basic

/-!
# Signals and processes

The commands that set traps, send signals and wait for processes.
-/

namespace ShellDebugger.Script.Builtins

open Run

/-- The name of a signal without what all names begin with; 0 is the exit. -/
def signalName (n : Nat) : Text :=
  if n = 0 then "EXIT".toList
  else ((Signal.ofNumber? n).map fun s ↦ s.name.toList.drop 3).getD (toString n).toList

/-- The number of a signal by its name or its number; 0 is the exit. -/
def signalNumber? (text : Text) : Option Nat :=
  match Arithmetic.digits? 10 text with
  | some n => if n ≤ 64 then some n else none
  | none =>
    let name := text.map Char.toUpper
    (List.range 32).find? fun n ↦ signalName n == name

def setTrap (signal : Nat) (action : Option Text) : Run Unit := do
  change fun s ↦
    { s with
      traps := match action with
        | some text => (signal, text) :: s.traps.filter (·.1 != signal)
        | none => s.traps.filter (·.1 != signal) }
  unless signal = 0 ∨ (← shell).ignored.contains signal do
    ask <| .handle signal <| match action with
      | some [] => .ignored
      | some _ => .caught
      | none => .usual

/-- Sets the actions of traps up to a name that is none; the status. -/
def setTraps (action : Option Text) : List Text → Run Nat
  | [] => return 0
  | name :: rest => do
    match signalNumber? name with
    | none =>
      let _ ← write 2 (textOf s!"trap: {shown name}: bad trap\n".toUTF8.toList)
      return 1
    | some signal =>
      setTrap signal action
      setTraps action rest

def trap (arguments : List Text) : Run Nat := do
  let (_, arguments) ← optionsOf [] [] arguments
  match arguments with
  | [] =>
    let sorted := (← shell).traps.mergeSort fun a b ↦ a.1 ≤ b.1
    print <| sorted.flatMap fun (n, action) ↦
      "trap -- ".toList ++ quoted action ++ ' ' :: signalName n ++ ['\n']
  | [name] => setTraps none [name]
  | first :: rest =>
    if (signalNumber? first).isSome then setTraps none (first :: rest)
    else setTraps (if first = ['-'] then none else some first) rest

def sendAll (signal status : Nat) : List Text → Run Nat
  | [] => return status
  | target :: rest => do
    let sent : Bool ← match target with
      | '-' :: group =>
        let _ ← countOf group
        pure false
      | _ => do ask (.send (← countOf target) signal)
    unless sent do complain "kill: No such process\n"
    sendAll signal (if sent then status else 1) rest

/-- Sends a signal to processes, or tells the names of signals. -/
def kill (arguments : List Text) : Run Nat := do
  let usage : Run Nat :=
    fail "kill: Usage: kill [-s sigspec | -signum | -sigspec] [pid | job]... or\nkill -l [exitstatus]"
  match arguments with
  | ['-', 'l'] :: rest =>
    match rest with
    | [] => print ('0' :: '\n' :: (List.range 31).flatMap fun n ↦ signalName (n + 1) ++ ['\n'])
    | a :: _ =>
      let n ← countOf a
      let n := if 128 < n then n - 128 else n
      if 0 < n ∧ n ≤ 64 then print (signalName n ++ ['\n'])
      else fail s!"kill: invalid signal number or exit status: {shown a}"
  | ['-', 's'] :: name :: targets =>
    match (signalNumber? name).filter fun n ↦ 0 < n ∨ name = ['0'] with
    | none => fail s!"kill: invalid signal number or name: {shown name}"
    | some signal => if targets.isEmpty then usage else sendAll signal 0 (behindMark targets)
  | ['-', '-'] :: targets => if targets.isEmpty then usage else sendAll 15 0 targets
  | ('-' :: name) :: targets =>
    match (signalNumber? name).filter fun n ↦ 0 < n ∨ name = ['0'] with
    | none => fail s!"kill: Illegal option -{String.ofList (name.take 1)}"
    | some signal => if targets.isEmpty then usage else sendAll signal 0 (behindMark targets)
  | [] => usage
  | targets => sendAll 15 0 targets
where
  /-- The arguments behind the mark that ends options, if it is there. -/
  behindMark (targets : List Text) : List Text :=
    if targets.head? = some ['-', '-'] then targets.drop 1 else targets

/-- What the interpreter says of a process that a signal has ended. -/
def deathWords (signal : Nat) : Option String :=
  [(1, "Hangup"), (3, "Quit"), (4, "Illegal instruction"), (5, "Trace/breakpoint trap"),
   (6, "Aborted"), (7, "Bus error"), (8, "Floating point exception"), (9, "Killed"),
   (10, "User defined signal 1"), (11, "Segmentation fault"), (12, "User defined signal 2"),
   (14, "Alarm clock"), (15, "Terminated"), (16, "Stack fault"), (24, "CPU time limit exceeded"),
   (25, "File size limit exceeded"), (26, "Virtual timer expired"),
   (27, "Profiling timer expired"), (29, "I/O possible"), (30, "Power failure"),
   (31, "Bad system call")].lookup signal

/-- Waits for processes: the status of the last one, or `none` if a signal has come that may
interrupt that. Signals that end processes are told if `tells`. -/
def awaitEach (interruptible tells : Bool) (status : Nat) : List Nat → Run (Option Nat)
  | [] => return some status
  | process :: rest => do
    match ← ask (.await process interruptible) with
    | none => return none
    | some outcome =>
      if let .killed signal := outcome then
        if let some words := if tells then deathWords signal else none then
          let _ ← write 2 (words ++ "\n").toList
      awaitEach interruptible tells outcome.status rest

/-- Waits for the end of processes that the interpreter has started: the status of the last one. -/
def await (processes : List Nat) : Run Nat := do
  return (← awaitEach false true 0 processes).getD 127

/-- The status with which waiting ends when a signal has come. -/
def interruption : Run Nat := do
  let arrived : List Nat ← ask .caught
  change fun s ↦ { s with arrived := s.arrived ++ arrived }
  return 128 + arrived.headD 0

/-- Waits for the background commands whose last processes have some numbers; the status of the
last one. -/
def awaitJobs (jobs : List (List Nat)) (status : Nat) : List Nat → Run Nat
  | [] => return status
  | number :: rest => do
    match jobs.find? (·.getLast? == some number) with
    | none => awaitJobs jobs 127 rest
    | some job =>
      match ← awaitEach true true 0 job with
      | some status => awaitJobs jobs status rest
      | none => interruption

def wait (arguments : List Text) : Run Nat := do
  let (_, targets) ← optionsOf [] [] arguments
  let jobs := (← shell).jobs
  match targets with
  | [] =>
    match ← awaitEach true false 0 jobs.reverse.flatten with
    | some _ => return 0
    | none => interruption
  | _ => awaitJobs jobs 127 (← targets.mapM countOf)

end ShellDebugger.Script.Builtins
