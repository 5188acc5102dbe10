import ShellDebugger.Host.Executable
import ShellDebugger.Script.Builtins.Directory
import ShellDebugger.Script.Evaluation.Mode

/-!
# Processes of an interpreter

What a process of the interpreter has of the one that has started it, how programs are found, and
the interpreter as a program that starts.
-/

namespace ShellDebugger.Script.Evaluation

open Run

/-- The interpreter in a process that it has started. -/
def enter (inBackground : Bool) : Run Unit := do
  let s ← shell
  let (ignoring, acting) := s.traps.partition (·.2.isEmpty)
  for (signal, _) in acting do
    unless signal = 0 do ask (.handle signal .usual)
  change ({ · with traps := ignoring, jobs := [], arrived := [], interrupted := none })
  if inBackground then
    for signal in [2, 3] do
      ask (.handle signal .ignored)
      change fun s ↦ { s with ignored := signal :: s.ignored }

def noInput : Run Unit := do
  let _ ← openFile 0 "/dev/null".toList .read

def hasTraps : Run Bool := do
  return (← shell).traps.any (!·.2.isEmpty)

/-- Whether a process may end as another program, with a command after which it has nothing more to
do. -/
def mayBecome (m : Mode) : Run Bool := do
  return m.isLast && !(← hasTraps)

/-- A program that was found, with its arguments. -/
structure Found where
  program : Program
  arguments : List Text

def find (path : List UInt8) (name : Text) (arguments : List Text) : Run (Except Nat Found) := do
  match Executable.resolve (← files) path (octetsOf name) with
  | .ok (_, image) => return .ok ⟨image.program, image.arguments.map textOf ++ arguments⟩
  | .error (.refused errno) =>
    if errno = .noProgram then
      let tree ← files
      let paths := Executable.pathsFor path (octetsOf name)
      let file := ((paths.find? tree.exists?).map (textOf ·.octets)).getD name
      return .ok ⟨.shell, file :: arguments⟩
    else if [Errno.noEntry, .notDirectory, .linkLoop, .nameTooLong].contains errno then
      complain s!"{shown name}: not found"
      return .error 127
    else
      complain s!"{shown name}: {errno.description}"
      return .error 126
  | .error _ =>
    complain s!"{shown name}: not found"
    return .error 127

/-- The path of the directory as a new interpreter tells it. -/
def startingPath : Run Text := do
  let s ← shell
  let physical := Builtins.placeText s.directory
  match ← valueOf? "PWD".toList with
  | none => return physical
  | some path =>
    let same := match (← files).find ⟨octetsOf path⟩ with
      | .ok (place, _) => place == s.directory
      | .error _ => false
    return if path.head? == some '/' && same then path else physical

/-- Makes the interpreter one that starts with the variables that are exported, and with some of its
own. -/
def startFresh (name : Text) : Run Unit := do
  let (self, parent) ← ask .identity
  let ignored : List Nat ← ask .ignored
  let path ← startingPath
  let s ← shell
  let fixed : List Text := ["IFS", "OPTIND", "PPID", "PWD"].map String.toList
  let inherited := s.bindings.filter fun (name, v) ↦
    v.exported && v.value.isSome && isName name && !fixed.contains name
  let own : List (Text × Text) :=
    [("IFS".toList, " \t\n".toList), ("OPTIND".toList, ['1']),
     ("PATH".toList, textOf Executable.usualPath), ("PPID".toList, (toString parent).toList),
     ("PS4".toList, "+ ".toList)]
  let own := own.filter fun (name, _) ↦ (inherited.lookup name).isNone
  let bindings := ("PWD".toList, ⟨some path, true, false⟩) ::
    own.map (fun (name, value) ↦ (name, ⟨some value, false, false⟩)) ++ inherited
  change fun s ↦
    { name
      processId := self
      parentId := parent
      bindings
      directory := s.directory
      path
      mask := s.mask
      ignored }

end ShellDebugger.Script.Evaluation
