import ShellDebugger.Host.Exit
import ShellDebugger.Host.Plan
import ShellDebugger.Script.Activity

/-!
# The world of a script

What the processes of a script act on: the files, the input and the outputs of the first of them,
the script pipe, the pipes between them, and a clock. The processes themselves stand in the world
as tasks, each with its descriptors and with the signals that have come to it. `World.answer`
answers the requests of a task, or leaves it waiting.
-/

namespace ShellDebugger.Script

inductive Handle where
  /-- An output stream of the first process. -/
  | output (stream : Stream)
  /-- The input of the first process. -/
  | input
  /-- The read end of the script pipe. -/
  | script
  | device (device : Device)
  /-- An open file, by its number. -/
  | file (number : Nat)
  /-- The read end of a pipe, by its number. -/
  | reader (number : Nat)
  /-- The write end of a pipe, by its number. -/
  | writer (number : Nat)
  deriving DecidableEq, Repr, Inhabited

structure OpenFile where
  place : Place
  access : Access
  position : Nat
  deriving Repr

structure Pipe where
  /-- What is read next. -/
  front : Text
  /-- What follows, last piece first. -/
  back : List Text
  /-- The number of octets in all. -/
  size : Nat
  deriving Repr

structure Piece where
  /-- When it was written, in milliseconds. -/
  time : Nat
  text : Text
  deriving Repr

structure Task where
  id : Nat
  parent : Nat
  descriptors : List (Nat × Handle)
  /-- The signals of which the process takes care. -/
  handled : List (Nat × Disposition)
  /-- The signals that were caught and are not asked for yet. -/
  arrived : List Nat
  /-- The signal that ends the process before it does anything more. -/
  doom : Option Nat
  stopped : Bool
  /-- When and how the process ended. -/
  ended : Option (Nat × Outcome)
  /-- Whether its parent knows that it has ended. -/
  reaped : Bool
  deriving Repr

structure World where
  files : FileTree
  /-- Where the script pipe stands. -/
  scriptPlace : Option Place
  /-- What was fed to the script pipe and is not read. -/
  script : Text
  /-- Whether no more will be fed. -/
  scriptClosed : Bool
  /-- When the script pipe was first opened for reading. -/
  scriptOpened : Option Nat
  /-- When the script pipe first lost its name. -/
  scriptMoved : Option Nat
  /-- Whether the input of the first process is closed. -/
  inputClosed : Bool
  /-- The time in milliseconds. -/
  clock : Nat
  /-- What was written to the outputs, last piece first. -/
  outputs : PerStream (List Piece)
  openFiles : List (Nat × OpenFile)
  pipes : List (Nat × Pipe)
  tasks : List Task
  /-- The next number of a file or a pipe. -/
  nextNumber : Nat
  /-- The next number of a process. -/
  nextTask : Nat

namespace Pipe

def room : Nat := 65536

/-- The octets that are written to a pipe together or not at all. -/
def unit : Nat := 4096

def holding (text : Text) : Pipe := ⟨text, [], text.length⟩

def push (p : Pipe) (text : Text) (count : Nat) : Pipe :=
  { p with back := text :: p.back, size := p.size + count }

def content (p : Pipe) : Text :=
  if p.back.isEmpty then p.front else p.front ++ p.back.reverse.flatten

end Pipe

namespace Task

/-- The signals that do nothing to a process that takes no care of them. -/
def harmless : List Nat := [17, 18, 23, 28]

/-- The signals that stop a process that takes no care of them. -/
def stopping : List Nat := [19, 20, 21, 22]

def unstoppable : List Nat := [9, 19]

def disposition (t : Task) (signal : Nat) : Disposition :=
  if unstoppable.contains signal then .usual else (t.handled.lookup signal).getD .usual

def deliver (t : Task) (signal : Nat) : Task :=
  let t := if signal = 18 then { t with stopped := false } else t
  match t.disposition signal with
  | .ignored => t
  | .caught =>
    if t.arrived.contains signal then t else { t with arrived := signal :: t.arrived }
  | .usual =>
    if harmless.contains signal then t
    else if stopping.contains signal then { t with stopped := true }
    else { t with doom := some (t.doom.getD signal) }

/-- The least number of a descriptor that is free from some number on. -/
def freeFrom (t : Task) (first : Nat) : Nat :=
  let numbers := t.descriptors.map (·.1)
  ((List.range (numbers.length + 1)).map (· + first)).find? (!numbers.contains ·) |>.getD first

end Task

namespace World

def task? (w : World) (id : Nat) : Option Task :=
  w.tasks.find? (·.id == id)

def withTask (w : World) (id : Nat) (f : Task → Task) : World :=
  { w with tasks := w.tasks.map fun t ↦ if t.id = id then f t else t }

def handle? (w : World) (id descriptor : Nat) : Option Handle :=
  (w.task? id).bind (·.descriptors.lookup descriptor)

def connect (w : World) (id descriptor : Nat) (handle : Handle) : World :=
  w.withTask id fun t ↦ { t with descriptors := setEntry descriptor handle t.descriptors }

def isHeld (w : World) (handle : Handle) : Bool :=
  w.tasks.any (·.descriptors.any (·.2 == handle))

/-- Starts a process with all that its parent has: the world and the number of the process. -/
def fork (w : World) (parent : Nat) : World × Nat :=
  match w.task? parent with
  | none => (w, w.nextTask)
  | some t =>
    let child : Task :=
      { t with
        id := w.nextTask
        parent
        arrived := []
        doom := none
        stopped := false }
    ({ w with tasks := w.tasks ++ [child], nextTask := w.nextTask + 1 }, child.id)

def finish (w : World) (id : Nat) (outcome : Outcome) : World :=
  match w.task? id with
  | none => w
  | some t =>
    (w.withTask id fun t ↦ { t with descriptors := [], ended := some (w.clock, outcome) }).withTask
      t.parent (·.deliver 17)

/-- Sends a signal to a process: whether there is one. Signal 0 only asks. -/
def send (w : World) (id signal : Nat) : World × Bool :=
  match w.task? id with
  | none => (w, false)
  | some t =>
    if t.reaped then (w, false)
    else if signal = 0 ∨ t.ended.isSome then (w, true)
    else (w.withTask id (·.deliver signal), true)

def openPlace (w : World) (id descriptor : Nat) (place : Place) (access : Access) : World :=
  { w with
    openFiles := setEntry w.nextNumber ⟨place, access, 0⟩ w.openFiles
    nextNumber := w.nextNumber + 1 }.connect id descriptor (.file w.nextNumber)

/-- Opens what a descriptor leads to once more, as another one. -/
def reopen (w : World) (id descriptor source : Nat) (access : Access) :
    World × Except IoError Unit :=
  match w.handle? id source with
  | none => (w, .error (.refused .noEntry))
  | some (.file number) =>
    match w.openFiles.lookup number with
    | none => (w, .error (.refused .noEntry))
    | some file =>
      let w := match access, w.files.node? file.place with
        | .write, some (.regular _ mode) =>
          { w with files := w.files.put file.place (.regular [] mode) }
        | _, _ => w
      (w.openPlace id descriptor file.place access, .ok ())
  | some handle => (w.connect id descriptor handle, .ok ())

/-- Opens a file as a descriptor. A named pipe that is not the script keeps the process waiting. -/
def openFile (w : World) (id descriptor : Nat) (directory : Place) (path : Path) (access : Access)
    (mode : Nat) : Option (World × Except IoError Unit) :=
  let view : FileTree := { w.files with workingDirectory := directory }
  match view.resolve true path with
  | .error cause => some (w, .error cause)
  | .ok place =>
    let opened (files : FileTree) : Option (World × Except IoError Unit) :=
      some ({ w with files }.openPlace id descriptor place access, .ok ())
    match w.files.node? place with
    | none =>
      if access.writes then opened (w.files.put place (.regular [] mode))
      else some (w, .error (.refused .noEntry))
    | some (.regular _ mode) =>
      match access with
      | .write => opened (w.files.put place (.regular [] mode))
      | .create => some (w, .error (.refused .nameTaken))
      | _ => opened w.files
    | some (.device (.descriptor source)) => some (w.reopen id descriptor source access)
    | some (.device device) => some (w.connect id descriptor (.device device), .ok ())
    | some (.pipe ..) =>
      if access = .read ∧ w.scriptPlace = some place then
        some ({ w with scriptOpened := some (w.scriptOpened.getD w.clock) }.connect id descriptor
          .script, .ok ())
      else none
    | some .directory =>
      if access.writes then some (w, .error (.refused .isDirectory)) else opened w.files
    | some (.program _) =>
      if access.writes then some (w, .error (.refused .noPermission)) else opened w.files
    | some (.link _) => some (w, .error (.refused .noEntry))

/-- Renames a file. What is open goes with its name. -/
def rename (w : World) (directory : Place) (source target : Path) : World × Except IoError Unit :=
  let view : FileTree := { w.files with workingDirectory := directory }
  let renamed := do
    let source ← view.resolve false source
    let target ← view.resolve false target
    return (source, target, ← w.files.rename source target)
  match renamed with
  | .error cause => (w, .error cause)
  | .ok (source, target, files) =>
    let moved := FileTree.placeAfterMove source target
    let scriptPlace :=
      if source ≠ target ∧ w.scriptPlace = some target then none else w.scriptPlace.map moved
    let scriptMoved :=
      if scriptPlace = w.scriptPlace then w.scriptMoved else some (w.scriptMoved.getD w.clock)
    let openFiles := w.openFiles.map fun (number, file) ↦
      (number, { file with place := moved file.place })
    ({ w with files, scriptPlace, scriptMoved, openFiles }, .ok ())

def portion (limit : Nat) (lineOnly : Bool) (text : Text) : Text :=
  let text := text.take limit
  if lineOnly then
    let line := text.takeWhile (· != '\n')
    text.take (line.length + 1)
  else text

def read (w : World) (handle : Handle) (limit : Nat) (lineOnly : Bool) :
    Option (World × Except IoError Text) :=
  match handle with
  | .output _ | .writer _ => some (w, .error (.refused .badDescriptor))
  | .input => if w.inputClosed then some (w, .ok []) else none
  | .script =>
    if w.script.isEmpty then if w.scriptClosed then some (w, .ok []) else none
    else
      let text := portion limit lineOnly w.script
      some ({ w with script := w.script.drop text.length }, .ok text)
  | .device .zero => some (w, .ok (List.replicate limit '\x00'))
  | .device _ => some (w, .ok [])
  | .reader number =>
    match w.pipes.lookup number with
    | none => some (w, .ok [])
    | some p =>
      let content := if p.front.isEmpty then p.content else p.front
      if content.isEmpty then if w.isHeld (.writer number) then none else some (w, .ok [])
      else
        let text := portion limit lineOnly content
        let back := if p.front.isEmpty then [] else p.back
        let p : Pipe := ⟨content.drop text.length, back, p.size - text.length⟩
        some ({ w with pipes := setEntry number p w.pipes }, .ok text)
  | .file number =>
    match w.openFiles.lookup number with
    | none => some (w, .error (.refused .badDescriptor))
    | some file =>
      if file.access.writes && file.access != .update then
        some (w, .error (.refused .badDescriptor))
      else
        match w.files.node? file.place with
        | some (.regular content _) =>
          let text := portion limit lineOnly (textOf ((content.drop file.position).take limit))
          let file := { file with position := file.position + text.length }
          some ({ w with openFiles := setEntry number file w.openFiles }, .ok text)
        | some .directory => some (w, .error (.refused .isDirectory))
        | _ => some (w, .ok [])

/-- Puts octets into a content at a position. -/
def overwrite (content : List UInt8) (position : Nat) (octets : List UInt8) : List UInt8 :=
  content.take position ++ List.replicate (position - content.length) 0 ++ octets ++
    content.drop (position + octets.length)

def writeFile (w : World) (number : Nat) (text : Text) : World × Except IoError Nat :=
  match w.openFiles.lookup number with
  | none => (w, .error (.refused .badDescriptor))
  | some file =>
    if !file.access.writes then (w, .error (.refused .badDescriptor))
    else
      match w.files.node? file.place with
      | some (.regular content mode) =>
        let position := if file.access = .append then content.length else file.position
        let content := overwrite content position (octetsOf text)
        let file := { file with position := position + text.length }
        ({ w with
            files := w.files.put file.place (.regular content mode)
            openFiles := setEntry number file w.openFiles }, .ok text.length)
      | _ => (w, .ok text.length)

/-- Writes to a handle, for a process. A process that writes to a pipe that nobody reads gets a
signal. -/
def write (w : World) (id : Nat) (handle : Handle) (text : Text) :
    Option (World × Except IoError Nat) :=
  match handle with
  | .input | .script | .reader _ => some (w, .error (.refused .badDescriptor))
  | .device _ => some (w, .ok text.length)
  | .output stream =>
    some ({ w with outputs := w.outputs.update (⟨w.clock, text⟩ :: ·) stream }, .ok text.length)
  | .file number => some (w.writeFile number text)
  | .writer number =>
    if !w.isHeld (.reader number) then
      some (w.withTask id (·.deliver 13), .error (.refused .brokenPipe))
    else
      match w.pipes.lookup number with
      | none => some (w, .ok text.length)
      | some p =>
        let length := text.length
        let free := Pipe.room - p.size
        if free = 0 ∨ (length ≤ Pipe.unit ∧ free < length) then none
        else
          let text := if length ≤ free then text else text.take free
          let count := min length free
          some ({ w with pipes := setEntry number (p.push text count) w.pipes }, .ok count)

/-- Whether what a process reads from a handle is a file to whose end its standard output is
written. -/
def feedsItself (w : World) (id : Nat) (handle : Handle) : Bool :=
  match handle, w.handle? id 1 with
  | .file source, some (.file target) =>
    match w.openFiles.lookup source, w.openFiles.lookup target with
    | some source, some target =>
      let length := match w.files.node? source.place with
        | some (.regular content _) => content.length
        | _ => 0
      let reached := if target.access = .append then length else target.position
      source.place == target.place && source.position < reached
    | _, _ => false
  | _, _ => false

/-- Tells a process which of its children have ended. -/
def reap (w : World) (parent : Nat) : World :=
  { w with
    tasks := w.tasks.map fun t ↦
      if t.parent = parent ∧ t.ended.isSome then { t with reaped := true } else t }

/-- Answers a request of a process, or `none` if it has to wait. -/
def answer (w : World) (id : Nat) : (r : Request) → Option (World × r.Answer)
  | .files => some (w, w.files)
  | .openFile descriptor directory path access mode =>
    w.openFile id descriptor directory path access mode
  | .rename directory source target => some (w.rename directory source target)
  | .pipe =>
    match w.task? id with
    | none => none
    | some t =>
      let first := t.freeFrom firstKept
      let w := w.connect id first (.reader w.nextNumber)
      match w.task? id with
      | none => none
      | some t =>
        let second := t.freeFrom firstKept
        let w := w.connect id second (.writer w.nextNumber)
        some ({ w with
          pipes := setEntry w.nextNumber (Pipe.holding []) w.pipes
          nextNumber := w.nextNumber + 1 }, (first, second))
  | .document descriptor text =>
    some ({ w with
      pipes := setEntry w.nextNumber (Pipe.holding text) w.pipes
      nextNumber := w.nextNumber + 1 }.connect id descriptor (.reader w.nextNumber), ())
  | .copy source target =>
    match w.handle? id source with
    | none => some (w, false)
    | some handle => some (w.connect id target handle, true)
  | .save descriptor =>
    match w.task? id, w.handle? id descriptor with
    | some t, some handle =>
      let kept := t.freeFrom firstKept
      some (w.connect id kept handle, some kept)
    | _, _ => some (w, none)
  | .close descriptor =>
    some (w.withTask id fun t ↦ { t with descriptors := dropEntry descriptor t.descriptors }, ())
  | .read descriptor limit lineOnly =>
    match w.handle? id descriptor with
    | none => some (w, .error (.refused .badDescriptor))
    | some handle => w.read handle limit lineOnly
  | .goBack descriptor count =>
    match w.handle? id descriptor with
    | some (.file number) =>
      match w.openFiles.lookup number with
      | some file =>
        let file := { file with position := file.position - count }
        some ({ w with openFiles := setEntry number file w.openFiles }, ())
      | none => some (w, ())
    | _ => some (w, ())
  | .write descriptor text =>
    match w.handle? id descriptor with
    | none => some (w, .error (.refused .badDescriptor))
    | some handle => w.write id handle text
  | .feedsItself descriptor => some (w, (w.handle? id descriptor).any (w.feedsItself id))
  | .clock => some (w, w.clock)
  | .sleepUntil time => if time ≤ w.clock then some (w, ()) else none
  | .identity => some (w, (id, ((w.task? id).map (·.parent)).getD 0))
  | .caught =>
    match w.task? id with
    | none => some (w, [])
    | some t =>
      if t.arrived.isEmpty then some (w, [])
      else some (w.withTask id ({ · with arrived := [] }), t.arrived.mergeSort)
  | .handle signal disposition =>
    some (w.withTask id fun t ↦ { t with handled := setEntry signal disposition t.handled }, ())
  | .ignored =>
    some (w, match w.task? id with
      | some t => (t.handled.filter (·.2 == .ignored)).map (·.1)
      | none => [])
  | .send process signal => some (w.send process signal)
  | .await process interruptible =>
    match w.task? process with
    | none => some (w, none)
    | some child =>
      match child.ended with
      | some (_, outcome) => some (w.reap id, some outcome)
      | none =>
        if interruptible && (w.task? id).any (!·.arrived.isEmpty) then some (w, none) else none
  | .become =>
    some (w.withTask id fun t ↦
      { t with
        descriptors := t.descriptors.filter (·.1 < firstKept)
        handled := t.handled.filter (·.2 == .ignored) }, ())

end World
end ShellDebugger.Script
