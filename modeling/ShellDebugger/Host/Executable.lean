import ShellDebugger.Host.FileTree

/-!
# Executables

What starting a file runs: a program, or the program that the first line of the file names, with
the file as its argument.
-/

namespace ShellDebugger

/-- What is run, and the arguments that come before all others. -/
structure Image where
  program : Program
  arguments : List Bytes
  deriving Repr

namespace Executable

/-- The directories in which names of programs are looked up, unless the environment says
otherwise. -/
def usualPath : Bytes :=
  Utf8.encode "/usr/local/sbin:/usr/local/bin:/usr/sbin:/usr/bin:/sbin:/bin"

/-- Whether an octet is a blank of a first line. -/
def isBlank (octet : UInt8) : Bool := octet == 0x20 || octet == 0x09

def lookedAt : Nat := 256

/-- The name of an interpreter at the start of a text, which ends at a blank or a NUL, and the
argument behind it. The argument is what is left up to a NUL, if there is a blank before it. -/
def nameAndArgument (text : Bytes) : Path × List Bytes :=
  let name := text.takeWhile fun octet ↦ !isBlank octet && octet != 0
  match text.drop name.length with
  | [] => (⟨name⟩, [])
  | separator :: rest =>
    if isBlank separator then
      match rest.dropWhile isBlank with
      | [] => (⟨name⟩, [])
      | argument => (⟨name⟩, [argument.takeWhile (· != 0)])
    else (⟨name⟩, [])

/-- The interpreter that a first line names and the argument it gives it; the file is no program if
there is none. A file that ends before its first line does counts as if NULs followed it, so it
may name an empty interpreter; a name that may go on behind what is looked at is none. -/
def interpreterOf (content : Bytes) : Option (Path × List Bytes) :=
  match content with
  | 0x23 :: 0x21 :: rest =>
    let rest := rest.take (lookedAt - 2)
    let line := rest.takeWhile fun octet ↦ octet != 0x0A && octet != 0
    if rest[line.length]? = some 0x0A then
      let line := (line.reverse.dropWhile isBlank).reverse.dropWhile isBlank
      if line.isEmpty then none else some (nameAndArgument line)
    else
      let padded := rest ++ List.replicate (lookedAt - 2 - rest.length) 0
      let named := padded.dropWhile isBlank
      if !named.any (fun octet ↦ isBlank octet || octet == 0) then none
      else
        let text := (padded.dropLast.reverse.dropWhile isBlank).reverse.dropWhile isBlank
        if text.isEmpty then none else some (nameAndArgument text)
  | _ => none

/-- What starting a file runs. Interpreters may be scripts themselves, so that `levels` files are
started in all. -/
def imageOf (tree : FileTree) (path : Path) (levels : Nat) : Except IoError Image := do
  let node ← if path.octets.isEmpty then pure .directory else (·.2) <$> tree.find path
  match node with
  | .program program =>
    if levels = 0 then throw (.refused .linkLoop)
    return ⟨program, []⟩
  | .regular content mode =>
    if mode &&& 0o111 = 0 then throw (.refused .noPermission)
    match levels with
    | 0 => throw (.refused .linkLoop)
    | levels + 1 =>
      match interpreterOf content with
      | none => throw (.refused .noProgram)
      | some (interpreter, extra) =>
        let image ← imageOf tree interpreter levels
        return ⟨image.program, image.arguments ++ extra ++ [path.octets]⟩
  | _ => throw (.refused .noPermission)

def interpreterLevels : Nat := 6

/-- The paths to which the name of an executable may lead: itself if it has a separator, or else
below each directory of a search path. -/
def pathsFor (searchPath name : Bytes) : List Path :=
  if name.contains Path.separator then [⟨name⟩]
  else
    (searchPath.splitOn 0x3A).map fun directory ↦
      (if directory.isEmpty then ("." : Path) else ⟨directory⟩) / ⟨name⟩

/-- What starting the first of some paths runs that can be started. A path that may not be run is
reported before those that are missing. -/
def firstImage (tree : FileTree) (failure : IoError) : List Path → Except IoError (Path × Image)
  | [] => .error failure
  | path :: rest =>
    match imageOf tree path interpreterLevels with
    | .ok image => .ok (path, image)
    | .error (.refused errno) =>
      if errno = .noEntry ∨ errno = .notDirectory then firstImage tree failure rest
      else if errno = .noPermission then firstImage tree (.refused .noPermission) rest
      else .error (.refused errno)
    | .error cause => .error cause

def resolve (tree : FileTree) (searchPath name : Bytes) : Except IoError (Path × Image) :=
  if name.isEmpty then .error (.refused .noEntry)
  else if name.contains 0 then .error .nulInExecutable
  else
    match pathsFor searchPath name with
    | [path] => if name.contains Path.separator then
        (imageOf tree path interpreterLevels).map (path, ·)
      else firstImage tree (.refused .noEntry) [path]
    | paths => firstImage tree (.refused .noEntry) paths

def devices : List (String × Device) :=
  [("/dev/null", .null), ("/dev/zero", .zero), ("/dev/stdin", .descriptor 0),
   ("/dev/stdout", .descriptor 1), ("/dev/stderr", .descriptor 2)] ++
    (List.range 10).map fun n ↦ (s!"/dev/fd/{n}", .descriptor n)

/-- Puts the programs and special files into a tree, where they usually are. -/
def install (tree : FileTree) : FileTree :=
  let programs : List (String × Program) :=
    [("sh", .shell), ("dash", .shell), ("bash", .shell), ("cat", .cat), ("true", .true),
     ("false", .false), ("sleep", .sleep), ("tr", .tr), ("head", .head), ("mv", .mv),
     ("echo", .echo), ("printf", .printf), ("env", .env)]
  let tree := ["/bin", "/usr/bin"].foldl
    (fun tree directory ↦ programs.foldl
      (fun tree (name, program) ↦ tree.install (Path.ofString directory / name) (.program program))
      tree)
    tree
  devices.foldl (fun tree (path, device) ↦ tree.install (Path.ofString path) (.device device)) tree

end Executable
end ShellDebugger
