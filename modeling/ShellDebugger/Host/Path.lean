import ShellDebugger.Text.Utf8

/-!
# Paths and environments

A path is a string of octets in which `/` separates names. It need not be text; shown to a reader
it is decoded with U+FFFD for what is not. The variables of a process have such strings as values;
where text is needed, a value that is none counts as unset.
-/

namespace ShellDebugger

structure Path where
  octets : Bytes
  deriving DecidableEq, Repr, Inhabited

namespace Path

def separator : UInt8 := 0x2F

def ofString (text : String) : Path :=
  ⟨Utf8.encode text⟩

instance : Coe String Path where
  coe := ofString

def display (path : Path) : String :=
  Utf8.decodeLossy path.octets

def isAbsolute (path : Path) : Bool :=
  path.octets.head? == some separator

def endsInSeparator (path : Path) : Bool :=
  path.octets.getLast? == some separator

/-- The path `child` seen from the directory `base`: an absolute path is left as it is. -/
def join (base child : Path) : Path :=
  if child.isAbsolute then child
  else if base.octets.isEmpty || base.endsInSeparator then ⟨base.octets ++ child.octets⟩
  else ⟨base.octets ++ separator :: child.octets⟩

instance : Div Path where
  div := join

/-- The names of a path, with the empty ones that doubled separators make. -/
def names (path : Path) : List Bytes :=
  path.octets.splitOn separator

/-- The octet of the name that stands for the directory itself. -/
def dot : UInt8 := 0x2E

/-- Drops separators and names of the directory itself at the end of a path, which is given last
octet first. A relative path may consist of such a name. -/
def trimEnd (isAbsolute : Bool) : Bytes → Bytes
  | [] => []
  | [octet] =>
    if octet = separator ∨ (octet = dot ∧ isAbsolute) then [] else [octet]
  | octet :: next :: rest =>
    if octet = separator then trimEnd isAbsolute (next :: rest)
    else if octet = dot ∧ next = separator then trimEnd isAbsolute rest
    else octet :: next :: rest

/-- The path of the directory that holds the last name, empty for a name alone. -/
def parent (path : Path) : Path :=
  let root := path.octets.take (if path.isAbsolute then 1 else 0)
  let named := trimEnd path.isAbsolute (path.octets.drop root.length).reverse
  let above := trimEnd path.isAbsolute (named.dropWhile (· != separator))
  ⟨root ++ above.reverse⟩

end Path

/-! ## Environments -/

/-- The variables of a process, each name once. -/
structure Environment where
  bindings : List (String × Bytes)
  deriving Repr

namespace Environment

/-- The environment that a block of octets holds: each variable as its name, an equals sign and its
value, with a NUL at its end. -/
def ofBlock (block : Bytes) : Environment :=
  ⟨(block.splitOn 0).filterMap fun entry ↦
    let name := entry.takeWhile (· != 0x3D)
    if name.isEmpty then none
    else (Utf8.decode? name).map fun text ↦ (text, entry.drop (name.length + 1))⟩

def octets? (env : Environment) (name : String) : Option Bytes :=
  env.bindings.lookup name

def text? (env : Environment) (name : String) : Option String :=
  (env.octets? name).bind Utf8.decode?

def set (env : Environment) (name : String) (value : Bytes) : Environment :=
  ⟨(name, value) :: env.bindings.filter (·.1 != name)⟩

def unset (env : Environment) (name : String) : Environment :=
  ⟨env.bindings.filter (·.1 != name)⟩

end Environment
end ShellDebugger
