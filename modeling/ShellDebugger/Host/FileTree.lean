import ShellDebugger.Host.IoError
import ShellDebugger.Host.Path

/-!
# File trees

The files that a process can reach: a set of named nodes under one root, seen from a working
directory. `resolve` walks a path to the place it denotes, which need not hold a node, and fails
for the reasons an operating system gives: a name that is missing or too long, a component that is
no directory, links that go on for ever. All other operations are look-ups and updates at places.
-/

namespace ShellDebugger

/-- The programs that a tree may hold ready to run. -/
inductive Program where
  | shell | cat | true | false | sleep | tr | head | mv | echo | printf | env
  deriving DecidableEq, Repr

inductive Device where
  /-- Reads as empty and takes everything. -/
  | null
  /-- Reads as NULs without end and takes everything. -/
  | zero
  /-- What a descriptor of the process that opens it leads to. -/
  | descriptor (number : Nat)
  deriving DecidableEq, Repr

inductive Node where
  | directory
  | regular (content : Bytes) (mode : Nat)
  | link (target : Path)
  /-- A named pipe, with the number of processes that hold it open for reading. -/
  | pipe (mode readers : Nat)
  | device (device : Device)
  | program (program : Program)
  deriving DecidableEq, Repr

namespace Node

/-- The permissions of a regular file for which nobody asked otherwise. -/
def usualMode : Nat := 0o644

def file (content : Bytes) : Node :=
  .regular content usualMode

def isDirectory : Node → Bool
  | .directory => true
  | _ => false

end Node

/-- A place in a tree: the names from the root down to it. -/
abbrev Place := List Bytes

/-- A tree of files. The root is a directory, and so is the working directory; every other node
stands among the entries. -/
structure FileTree where
  workingDirectory : Place
  entries : List (Place × Node)

namespace FileTree

/-- The number of links that a walk follows before it gives up. -/
def linkLimit : Nat := 40

def nameLimit : Nat := 255

def pathLimit : Nat := 4095

def node? (tree : FileTree) (place : Place) : Option Node :=
  if place.isEmpty then some .directory else tree.entries.lookup place

/-- Walks from the directory `here` along names. A last name may be missing; a last link is
followed only if `follow` says so. -/
def walk (tree : FileTree) (follow : Bool) (links : Nat) (here : Place) (names : List Bytes) :
    Except Errno Place :=
  match names with
  | [] => .ok here
  | name :: rest =>
    if name.isEmpty || name == [0x2E] then walk tree follow links here rest
    else if name == [0x2E, 0x2E] then walk tree follow links here.dropLast rest
    else if nameLimit < name.length then .error .nameTooLong
    else
      match tree.node? (here ++ [name]) with
      | none => if rest.isEmpty then .ok (here ++ [name]) else .error .noEntry
      | some (.link target) =>
        if rest.isEmpty && !follow then .ok (here ++ [name])
        else
          match links with
          | 0 => .error .linkLoop
          | links + 1 =>
            if target.octets.isEmpty then .error .noEntry
            else
              let start := if target.isAbsolute then [] else here
              walk tree follow links start (target.names ++ rest)
      | some .directory => walk tree follow links (here ++ [name]) rest
      | some _ => if rest.isEmpty then .ok (here ++ [name]) else .error .notDirectory
termination_by (links, names.length)

/-- The place that a path denotes, with or without following a link at its end. -/
def resolve (tree : FileTree) (follow : Bool) (path : Path) : Except IoError Place :=
  if path.octets.contains 0 then .error .nulInPath
  else if path.octets.isEmpty then .error (.refused .noEntry)
  else if pathLimit < path.octets.length then .error (.refused .nameTooLong)
  else
    let start := if path.isAbsolute then [] else tree.workingDirectory
    (tree.walk follow linkLimit start path.names).mapError .refused

def find (tree : FileTree) (path : Path) : Except IoError (Place × Node) := do
  let place ← tree.resolve true path
  match tree.node? place with
  | some node => .ok (place, node)
  | none => .error (.refused .noEntry)

def exists? (tree : FileTree) (path : Path) : Bool :=
  (tree.find path).isOk

def read (tree : FileTree) (path : Path) : Except IoError Bytes := do
  match (← tree.find path).2 with
  | .regular content _ => .ok content
  | .directory => .error (.refused .isDirectory)
  | _ => .ok []

/-- The names in a directory, in no particular order. -/
def namesIn (tree : FileTree) (place : Place) : List Bytes :=
  tree.entries.filterMap fun (entry, _) ↦
    match entry.getLast? with
    | some name => if entry.dropLast = place then some name else none
    | none => none

/-- Puts a node at a place, instead of one that stands there. -/
def put (tree : FileTree) (place : Place) (node : Node) : FileTree :=
  if tree.entries.any (·.1 == place) then
    { tree with entries := tree.entries.map fun e ↦ if e.1 == place then (place, node) else e }
  else { tree with entries := tree.entries ++ [(place, node)] }

/-- Takes a place and all below it out of the tree. -/
def erase (tree : FileTree) (place : Place) : FileTree :=
  { tree with entries := tree.entries.filter fun e ↦ !place.isPrefixOf e.1 }

def remove (tree : FileTree) (place : Place) : FileTree :=
  { tree with entries := tree.entries.filter (·.1 != place) }

/-- Makes a place and all above it directories, where nothing stands yet. -/
def makeDirectories (tree : FileTree) (place : Place) : FileTree :=
  (List.range place.length).foldl
    (fun tree above ↦
      let here := place.take (above + 1)
      if (tree.node? here).isSome then tree else tree.put here .directory)
    tree

/-- The place of a path whose links and missing parents do not matter. -/
def literalPlace (tree : FileTree) (path : Path) : Place :=
  let start := if path.isAbsolute then [] else tree.workingDirectory
  path.names.foldl
    (fun place name ↦
      if name.isEmpty || name == [0x2E] then place
      else if name == [0x2E, 0x2E] then place.dropLast
      else place ++ [name])
    start

/-- The place where a new file of this path would stand, however its parents are reached. -/
def placeFor (tree : FileTree) (path : Path) : Place :=
  match tree.resolve false path with
  | .ok place => place
  | .error _ => tree.literalPlace path

/-- Puts a node at a path, instead of one that stands there, and makes its parents. -/
def install (tree : FileTree) (path : Path) (node : Node) : FileTree :=
  let place := tree.placeFor path
  ((tree.makeDirectories place.dropLast).erase place).put place node

def installDirectory (tree : FileTree) (path : Path) : FileTree :=
  tree.makeDirectories (tree.placeFor path)

def discard (tree : FileTree) (path : Path) : FileTree :=
  tree.erase (tree.placeFor path)

/-- Makes a named pipe, unless the name is taken. -/
def makePipe (tree : FileTree) (path : Path) (mode : Nat) : Except IoError FileTree := do
  let place ← tree.resolve false path
  match tree.node? place with
  | some _ => .error (.refused .nameTaken)
  | none => .ok (tree.put place (.pipe mode 0))

def unlink (tree : FileTree) (path : Path) : Except IoError FileTree := do
  let place ← tree.resolve false path
  match tree.node? place with
  | none => .error (.refused .noEntry)
  | some .directory => .error (.refused .isDirectory)
  | some _ => .ok (tree.remove place)

/-- The place at which something stands after what was at `source` has gone to `target`. -/
def placeAfterMove (source target place : Place) : Place :=
  if source.isPrefixOf place then target ++ place.drop source.length else place

/-- Puts what stands at one place, and all below it, at another place, instead of what stands
there. -/
def move (tree : FileTree) (source target : Place) : FileTree :=
  { tree with
    entries := (tree.erase target).entries.map fun (place, node) ↦
      (placeAfterMove source target place, node) }

/-- Renames what stands at a place. A directory may only take the place of an empty one, and any
other file only that of one that is no directory. -/
def rename (tree : FileTree) (source target : Place) : Except IoError FileTree :=
  match tree.node? source with
  | none => .error (.refused .noEntry)
  | some node =>
    if source = target then .ok tree
    else if source.isPrefixOf target then .error (.refused .invalidArgument)
    else
      match tree.node? target, node.isDirectory with
      | none, _ => .ok (tree.move source target)
      | some .directory, false => .error (.refused .isDirectory)
      | some .directory, true =>
        if (tree.namesIn target).isEmpty then .ok (tree.move source target)
        else .error (.refused .notEmpty)
      | some _, true => .error (.refused .notDirectory)
      | some _, false => .ok (tree.move source target)

/-- Tries to open a named pipe for writing without waiting: `false` while nobody reads it. -/
def tryOpenWriter (tree : FileTree) (path : Path) : Except IoError Bool := do
  match (← tree.find path).2 with
  | .pipe _ readers => .ok (readers != 0)
  | .directory => .error (.refused .isDirectory)
  | _ => .error .notPipe

def mapReaders (tree : FileTree) (place : Place) (f : Nat → Nat) : FileTree :=
  match tree.node? place with
  | some (.pipe mode readers) => tree.put place (.pipe mode (f readers))
  | _ => tree

end FileTree
end ShellDebugger
