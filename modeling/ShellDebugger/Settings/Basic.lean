import ShellDebugger.Host.Path
import ShellDebugger.Host.Time

/-!
# Settings

The settings of the debugger and their built-in values, and what follows from them for the sessions
that it runs.
-/

namespace ShellDebugger

/-- The settings of the shell that runs scripts. -/
structure ShellSettings where
  /-- The executable of the shell. -/
  executable : Path
  /-- The most lines that wait to be fed to the shell. -/
  feedCapacity : Nat
  /-- The most chunks of output that wait to be printed, for each stream. -/
  outputCapacity : Nat
  /-- The milliseconds that the shell has to open its script. -/
  openTimeout : Nat
  /-- The seconds that a shell has to end, if there is a limit. -/
  terminateTimeout : Option Nat
  deriving DecidableEq, Repr

structure ListSettings where
  /-- The most lines of a page. -/
  count : Nat
  deriving DecidableEq, Repr

structure Settings where
  shell : ShellSettings
  list : ListSettings
  /-- What is logged. -/
  logLevel : String
  deriving DecidableEq, Repr

def ShellSettings.builtIn : ShellSettings := ⟨"/bin/sh", 1024, 1024, 10000, none⟩

def ListSettings.builtIn : ListSettings := ⟨10⟩

def Settings.builtIn : Settings := ⟨.builtIn, .builtIn, "warn"⟩

structure SessionSettings where
  /-- The executable of the shell, which gets the path of its script as its argument. -/
  shell : Path
  /-- The directory of the script pipes. -/
  pipeDirectory : Path
  /-- The most lines that wait to be fed to the shell. -/
  feedCapacity : Nat
  /-- How long a shell has to open its script. -/
  openTimeout : Duration
  /-- How long a shell has to end, if there is a limit. -/
  terminateTimeout : Option Duration
  deriving DecidableEq, Repr

/-- The session settings that follow from the settings of the shell, with the script pipes in a
directory. -/
def SessionSettings.ofShell (shell : ShellSettings) (pipeDirectory : Path) : SessionSettings where
  shell := shell.executable
  pipeDirectory := pipeDirectory
  feedCapacity := shell.feedCapacity
  openTimeout := ⟨shell.openTimeout⟩
  terminateTimeout := shell.terminateTimeout.map .ofSeconds

end ShellDebugger
