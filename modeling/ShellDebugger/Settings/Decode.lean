import ShellDebugger.Settings.Basic
import ShellDebugger.Settings.Error
import ShellDebugger.Settings.Json

/-!
# Settings in JSON

Each setting is a member of a section, and a missing one has its built-in value. A section may also
be an array of its settings in order, of which the last ones may be missing. Members of other names
do not matter. Settings are read in the order of their names, and the first that does not fit is
reported.
-/

namespace ShellDebugger

def Json.found : Json → Found
  | .null => .null
  | .boolean value => .boolean value
  | .integer value => .integer value
  | .floating value => .floating value
  | .text value => .text value
  | .array _ => .sequence
  | .object _ => .map

namespace Settings

def natural (expected : Expected) : Json → Except Mismatch Nat
  | .integer (.ofNat n) => .ok n
  | .integer value => .error (.range (.integer value) expected)
  | value => .error (.kind value.found expected)

def natural? (expected : Expected) : Json → Except Mismatch (Option Nat)
  | .null => .ok none
  | value => some <$> natural expected value

def text : Json → Except Mismatch String
  | .text value => .ok value
  | value => .error (.kind value.found .text)

def path : Json → Except Mismatch Path
  | .text value => .ok value
  | value => .error (.kind value.found .path)

def orBuiltIn {α : Type} (builtIn : α) (decode : Json → Except Mismatch α) :
    Option Json → Except Mismatch α
  | some value => decode value
  | none => .ok builtIn

/-- The settings of the shell, each looked up by its name and its index. -/
def shellFrom (get : String → Nat → Option Json) : Except Mismatch ShellSettings := do
  let builtIn := ShellSettings.builtIn
  let executable ← orBuiltIn builtIn.executable path (get "executable" 0)
  let feedCapacity ←
    orBuiltIn builtIn.feedCapacity (natural .count) (get "feed_queue_capacity" 1)
  let outputCapacity ←
    orBuiltIn builtIn.outputCapacity (natural .count) (get "output_buffer_chunks" 2)
  let openTimeout ← orBuiltIn builtIn.openTimeout (natural .amount) (get "pipe_open_timeout_ms" 3)
  let terminateTimeout ←
    orBuiltIn builtIn.terminateTimeout (natural? .amount) (get "terminate_timeout_secs" 4)
  return ⟨executable, feedCapacity, outputCapacity, openTimeout, terminateTimeout⟩

/-- The settings of listings, each looked up by its name and its index. -/
def listFrom (get : String → Nat → Option Json) : Except Mismatch ListSettings := do
  return ⟨← orBuiltIn ListSettings.builtIn.count (natural .count) (get "count" 0)⟩

def sectionOf {α : Type} (expected : Expected) (size : Nat)
    (decode : (String → Nat → Option Json) → Except Mismatch α) : Json → Except Mismatch α
  | .object members => decode fun name _ ↦ members.lookup name
  | .array elements => do
    let settings ← decode fun _ i ↦ elements[i]?
    if size < elements.length then .error (.tooLong elements.length) else .ok settings
  | value => .error (.kind value.found expected)

def decode (value : Json) : Except Mismatch Settings := do
  let list ← orBuiltIn .builtIn (sectionOf .listSection 1 listFrom) (value.get? "list")
  let logLevel ← orBuiltIn builtIn.logLevel text (value.get? "log_level")
  let shell ← orBuiltIn .builtIn (sectionOf .shellSection 5 shellFrom) (value.get? "shell")
  return ⟨shell, list, logLevel⟩

end Settings
end ShellDebugger
