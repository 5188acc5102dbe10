import ShellDebugger.Log.Filter

/-!
# Records of the log

A record is one line: the time, the level, the target, what happened, and the values that belong to
it. It is written for readers, with or without colours, or as a JSON object.
-/

namespace ShellDebugger.Log

structure Record where
  level : Level
  target : String
  message : String
  fields : List (String × String)
  deriving DecidableEq, Repr

inductive Style where
  | plain
  | coloured
  | json
  deriving DecidableEq, Repr

namespace Record

def messageName : String := "message"

def fieldNames (r : Record) : List String :=
  messageName :: r.fields.map (·.1)

def colour : Level → Nat
  | .off | .error => 31
  | .warn => 33
  | .info => 32
  | .debug => 34
  | .trace => 35

/-- A text in a terminal mode, after which the usual mode is back. -/
def inMode (coloured : Bool) (mode : Nat) (text : String) : String :=
  if coloured then s!"\x1b[{mode}m{text}\x1b[0m" else text

def dim : Nat := 2

def slanted : Nat := 3

def levelWidth : Nat := 5

def line (coloured : Bool) (time : String) (r : Record) : String :=
  let mode := inMode coloured
  let blanks := String.ofList (List.replicate (levelWidth - r.level.name.length) ' ')
  let fields := r.fields.map fun (name, value) ↦
    " " ++ mode slanted name ++ mode dim "=" ++ value
  let head := [mode dim time, mode (colour r.level) (blanks ++ r.level.name),
    mode dim r.target ++ mode dim ":", r.message]
  " ".intercalate head ++ String.join fields ++ "\n"

def jsonChar (c : Char) : List Char :=
  match c with
  | '"' => ['\\', '"']
  | '\\' => ['\\', '\\']
  | '\x08' => ['\\', 'b']
  | '\t' => ['\\', 't']
  | '\n' => ['\\', 'n']
  | '\x0c' => ['\\', 'f']
  | '\r' => ['\\', 'r']
  | c =>
    if c.toNat < 0x20 then '\\' :: 'u' :: (Nat.toDigits 16 (0x10000 + c.toNat)).drop 1 else [c]

def jsonString (text : String) : String :=
  String.ofList ('"' :: text.toList.flatMap jsonChar ++ ['"'])

def jsonObject (members : List (String × String)) : String :=
  let written := members.map fun (name, value) ↦ s!"{jsonString name}:{value}"
  "\x7b" ++ ",".intercalate written ++ "\x7d"

def json (time : String) (r : Record) : String :=
  let fields := (messageName, r.message) :: r.fields
  jsonObject
    [("timestamp", jsonString time), ("level", jsonString r.level.name),
     ("fields", jsonObject (fields.map fun (name, value) ↦ (name, jsonString value))),
     ("target", jsonString r.target)] ++ "\n"

def text (style : Style) (time : String) (r : Record) : String :=
  match style with
  | .plain => r.line false time
  | .coloured => r.line true time
  | .json => r.json time

end Record
end ShellDebugger.Log
