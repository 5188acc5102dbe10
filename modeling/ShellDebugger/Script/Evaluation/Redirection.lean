import ShellDebugger.Script.Expansion
import ShellDebugger.Script.Programs.Basic

/-!
# Redirections

Redirections make descriptors lead elsewhere while a command runs, or from then on. Where they led
before is saved in descriptors that no program inherits.
-/

namespace ShellDebugger.Script.Evaluation

open Run

inductive Target where
  | file (path : Text) (access : Access)
  | copy (source : Nat)
  | closed
  | document (text : Text)

def targetOf (substitute : Expansion.Substitute) (r : Redirection) : Run Target := do
  match r with
  | .input w => return .file (← Expansion.text substitute w) .read
  | .output w =>
    return .file (← Expansion.text substitute w) (if ← isOn 'C' then .create else .write)
  | .overwrite w => return .file (← Expansion.text substitute w) .write
  | .append w => return .file (← Expansion.text substitute w) .append
  | .readWrite w => return .file (← Expansion.text substitute w) .update
  | .copy w =>
    match ← Expansion.text substitute w with
    | ['-'] => return .closed
    | [c] => if c.isDigit then return .copy (c.toNat - '0'.toNat) else fail "Bad fd number"
    | _ => fail "Bad fd number"
  | .document number =>
    return .document (← Expansion.text substitute (((← shell).documents.lookup number).getD []))

def targetsOf (substitute : Expansion.Substitute) (rs : List Redirect) :
    Run (List (Nat × Target)) :=
  rs.mapM fun (descriptor, r) ↦ do return (descriptor, ← targetOf substitute r)

def redirect (descriptor : Nat) (target : Target) : Run Bool := do
  match target with
  | .file path access =>
    match ← openFile descriptor path access with
    | .ok () => return true
    | .error cause =>
      let act := if access.writes then "create" else "open"
      complain s!"cannot {act} {shown path}: {Programs.reasonOf cause}"
      return false
  | .copy source =>
    if source = descriptor then return true
    if ← ask (.copy source descriptor) then return true
    complain s!"{source}: Bad file descriptor"
    return false
  | .closed =>
    ask (.close descriptor)
    return true
  | .document text =>
    ask (.document descriptor text)
    return true

/-- Descriptors that were redirected, with where they led before if they led anywhere. -/
abbrev Saved := List (Nat × Option Nat)

/-- Redirects descriptors in order, up to the first that cannot be: whether all could be, and what
was saved. -/
def redirectAll (saved : Saved) : List (Nat × Target) → Run (Bool × Saved)
  | [] => return (true, saved)
  | (descriptor, target) :: rest => do
    let saved ← if (saved.lookup descriptor).isSome then pure saved
      else do pure ((descriptor, ← ask (.save descriptor)) :: saved)
    if ← redirect descriptor target then redirectAll saved rest else return (false, saved)

/-- Makes descriptors lead where they led before, or forgets that. -/
def restore (keeps : Bool) : Saved → Run Unit
  | [] => return ()
  | (descriptor, kept) :: rest => do
    match kept with
    | none => unless keeps do ask (.close descriptor)
    | some kept =>
      unless keeps do
        let _ ← ask (.copy kept descriptor)
      ask (.close kept)
    restore keeps rest

/-- Does something with descriptors redirected, given what is saved. If they cannot be, the status
is 2. -/
def redirecting (keeps : Bool) (targets : List (Nat × Target)) (act : Saved → Run Unit)
    (otherwise : Run Unit) : Run Unit := do
  if targets.isEmpty then act []
  else
    let (good, saved) ← redirectAll [] targets
    if good then andFinally (act saved) (restore keeps saved)
    else
      restore false saved
      setStatus 2
      otherwise

end ShellDebugger.Script.Evaluation
