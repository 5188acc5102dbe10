import ShellDebugger.Host.IoError
import ShellDebugger.Host.Path
import ShellDebugger.Number.Binary64
import ShellDebugger.Text.Printable

/-!
# Failures of reading settings
-/

namespace ShellDebugger

inductive Found where
  | null
  | boolean (value : Bool)
  | integer (value : Int)
  | floating (value : Binary64)
  | text (value : String)
  | sequence
  | map
  deriving DecidableEq, Repr

def Found.describe : Found → String
  | .null => "null"
  | .boolean value => s!"boolean `{value}`"
  | .integer value => s!"integer `{value}`"
  | .floating value => s!"floating point `{value.text}`"
  | .text value => s!"string {Quoted.quote value}"
  | .sequence => "sequence"
  | .map => "map"

inductive Expected where
  | count
  | amount
  | text
  | path
  | shellSection
  | listSection
  deriving DecidableEq, Repr

def Expected.describe : Expected → String
  | .count => "usize"
  | .amount => "u64"
  | .text => "a string"
  | .path => "path string"
  | .shellSection => "struct ShellConfig"
  | .listSection => "struct ListConfig"

inductive Mismatch where
  /-- The value is of another kind. -/
  | kind (found : Found) (expected : Expected)
  /-- The value is of the kind, but out of range. -/
  | range (found : Found) (expected : Expected)
  /-- A section given as a sequence has more elements than the section has settings. -/
  | tooLong (length : Nat)
  deriving DecidableEq, Repr

def Mismatch.describe : Mismatch → String
  | .kind found expected => s!"invalid type: {found.describe}, expected {expected.describe}"
  | .range found expected => s!"invalid value: {found.describe}, expected {expected.describe}"
  | .tooLong length => s!"invalid length {length}, expected fewer elements in array"

inductive SettingsError where
  /-- A settings file cannot be read. -/
  | unreadable (path : Path) (cause : IoError)
  /-- A settings file is not well formed. -/
  | malformed (path : Path)
  /-- A settings file holds something other than an object. -/
  | noObject (path : Path)
  /-- A setting has the wrong type or range. -/
  | invalid (mismatch : Mismatch)
  /-- Any other reason, in words. -/
  | stated (text : String)
  deriving DecidableEq, Repr

def SettingsError.reason : SettingsError → String
  | .unreadable path cause => s!"Failed to read config file {path.display}: {cause.message}"
  | .malformed path => s!"Failed to parse config file {path.display}: not well formed"
  | .noObject path => s!"Config file {path.display} must contain a JSON object"
  | .invalid mismatch => s!"Invalid configuration: {mismatch.describe}"
  | .stated text => text

def SettingsError.message (error : SettingsError) : String :=
  s!"Configuration error: {error.reason}"

end ShellDebugger
