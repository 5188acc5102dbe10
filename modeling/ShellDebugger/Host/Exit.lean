/-!
# Exits of processes

How a process ended, as the status word that the operating system reports for it, and the text
that describes it.
-/

namespace ShellDebugger

inductive Signal where
  | hangup | interrupt | quit | illegal | trap | abort | bus | arithmetic | kill | user1
  | segment | user2 | brokenPipe | alarm | terminate | stackFault | child | resume | stop
  | terminalStop | terminalRead | terminalWrite | urgent | cpuLimit | fileLimit | virtualTimer
  | profiling | windowChange | ioPossible | power | badCall
  deriving DecidableEq, Repr

namespace Signal

def table : List (Signal × Nat × String) :=
  [(hangup, 1, "SIGHUP"), (interrupt, 2, "SIGINT"), (quit, 3, "SIGQUIT"), (illegal, 4, "SIGILL"),
   (trap, 5, "SIGTRAP"), (abort, 6, "SIGABRT"), (bus, 7, "SIGBUS"), (arithmetic, 8, "SIGFPE"),
   (kill, 9, "SIGKILL"), (user1, 10, "SIGUSR1"), (segment, 11, "SIGSEGV"), (user2, 12, "SIGUSR2"),
   (brokenPipe, 13, "SIGPIPE"), (alarm, 14, "SIGALRM"), (terminate, 15, "SIGTERM"),
   (stackFault, 16, "SIGSTKFLT"), (child, 17, "SIGCHLD"), (resume, 18, "SIGCONT"),
   (stop, 19, "SIGSTOP"), (terminalStop, 20, "SIGTSTP"), (terminalRead, 21, "SIGTTIN"),
   (terminalWrite, 22, "SIGTTOU"), (urgent, 23, "SIGURG"), (cpuLimit, 24, "SIGXCPU"),
   (fileLimit, 25, "SIGXFSZ"), (virtualTimer, 26, "SIGVTALRM"), (profiling, 27, "SIGPROF"),
   (windowChange, 28, "SIGWINCH"), (ioPossible, 29, "SIGIO"), (power, 30, "SIGPWR"),
   (badCall, 31, "SIGSYS")]

def ofNumber? (n : Nat) : Option Signal :=
  (table.find? (·.2.1 == n)).map (·.1)

def entry (signal : Signal) : Nat × String :=
  (table.lookup signal).getD (0, "")

def number (signal : Signal) : Nat :=
  signal.entry.1

def name (signal : Signal) : String :=
  signal.entry.2

/-- The number of a signal and, if it has one, its name in parentheses. -/
def describe (n : Nat) : String :=
  match ofNumber? n with
  | some signal => s!"{n} ({signal.name})"
  | none => s!"{n}"

end Signal

/-- The status word of a process that was waited for. -/
structure WaitStatus where
  raw : UInt32
  deriving DecidableEq, Repr

namespace WaitStatus

def exited (code : UInt8) : WaitStatus :=
  ⟨code.toUInt32 <<< 8⟩

def signaled (signal : Signal) : WaitStatus :=
  ⟨UInt32.ofNat signal.number⟩

/-- The signal number in the low seven bits, 0 for an exit of its own. -/
def termination (status : WaitStatus) : Nat :=
  (status.raw &&& 0x7F).toNat

/-- The second octet: the exit code or the stopping signal. -/
def upper (status : WaitStatus) : Nat :=
  ((status.raw >>> 8) &&& 0xFF).toNat

/-- What a status word says, the first reading that fits. -/
def describe (status : WaitStatus) : String :=
  if status.termination = 0 then s!"exit status: {status.upper}"
  else if status.termination ≠ 0x7F then
    let core := if status.raw &&& 0x80 = 0 then "" else " (core dumped)"
    s!"signal: {Signal.describe status.termination}{core}"
  else if status.raw &&& 0xFF = 0x7F then
    s!"stopped (not terminated) by signal: {Signal.describe status.upper}"
  else if status.raw = 0xFFFF then "continued (WIFCONTINUED)"
  else
    let digits := String.ofList (Nat.toDigits 16 status.raw.toNat)
    s!"unrecognised wait status: {status.raw.toInt32.toInt} 0x{digits}"

end WaitStatus

inductive Exit where
  /-- The process was waited for and left this status. -/
  | reaped (status : WaitStatus)
  /-- Waiting failed, and the status is unknown. -/
  | lost (reason : String)
  deriving DecidableEq, Repr

namespace Exit

def code (n : UInt8) : Exit :=
  .reaped (.exited n)

def signal (s : Signal) : Exit :=
  .reaped (.signaled s)

def describe : Exit → String
  | .reaped status => status.describe
  | .lost reason => s!"status unknown: {reason}"

end Exit
end ShellDebugger
