import ShellDebugger.Host.Exit
import ShellDebugger.Host.IoError
import ShellDebugger.Host.Path
import ShellDebugger.Host.Time

/-!
# Failures of a session

Why a shell could not be started or talked to. A failed start wraps the failure of the step that
failed; `root` looks through the wrapping.
-/

namespace ShellDebugger

/-- Why the write end of a script pipe was not opened. -/
inductive OpenFailure where
  /-- Opening was refused. -/
  | refused (cause : IoError)
  /-- The shell exited before it read its script. -/
  | exited (exit : Exit)
  /-- The shell did not open its script in time. -/
  | timedOut (limit : Duration)
  /-- Any other reason, in words. -/
  | stated (text : String)
  deriving DecidableEq, Repr

def OpenFailure.message : OpenFailure → String
  | .refused cause => cause.message
  | .exited exit => s!"shell exited before reading its script ({exit.describe})"
  | .timedOut limit => s!"shell did not open its script within {limit.text}"
  | .stated text => text

inductive SessionError where
  /-- The script pipe could not be made. -/
  | pipeNotMade (path : Path) (cause : IoError)
  /-- The shell could not be started. -/
  | notSpawned (executable : Path) (cause : IoError)
  /-- The shell never opened its script pipe. -/
  | pipeNotOpened (path : Path) (reason : OpenFailure)
  /-- The source does not exist. -/
  | noSource (path : Path)
  /-- The source cannot be inspected or is none. -/
  | badSource (path : Path) (cause : IoError)
  /-- No shell runs. -/
  | notRunning
  /-- The shell has exited on its own. -/
  | shellExited (exit : Exit)
  /-- A start failed. -/
  | startFailed (inner : SessionError)
  /-- The driver was closed. -/
  | closed
  deriving DecidableEq, Repr

namespace SessionError

def message : SessionError → String
  | .pipeNotMade path cause => s!"failed to create script pipe {path.display}: {cause.message}"
  | .notSpawned executable cause => s!"failed to spawn {executable.display}: {cause.message}"
  | .pipeNotOpened path reason => s!"failed to open script pipe {path.display}: {reason.message}"
  | .noSource path => s!"{path.display}: no such file"
  | .badSource path cause => s!"cannot load {path.display}: {cause.message}"
  | .notRunning => "shell not started"
  | .shellExited exit => s!"shell has exited ({exit.describe})"
  | .startFailed inner => s!"failed to start shell: {inner.message}"
  | .closed => "session driver is closed"

def root : SessionError → SessionError
  | .startFailed inner => inner.root
  | error => error

/-- Whether the failure means that there is no shell to talk to. -/
def isNotRunning : SessionError → Bool
  | .notRunning | .shellExited _ => true
  | _ => false

/-- Whether the executable of the shell could not be started. -/
def isSpawn (error : SessionError) : Bool :=
  match error.root with
  | .notSpawned .. => true
  | _ => false

end SessionError
end ShellDebugger
