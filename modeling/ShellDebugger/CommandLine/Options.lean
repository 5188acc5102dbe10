import ShellDebugger.CommandLine.Usage
import ShellDebugger.Host.Path
import ShellDebugger.Text.Similarity

/-!
# Options

Reads the arguments of the command line from left to right. The value of an option is only looked
at when the next argument comes that is known, or when there are no more, so an argument that is
unknown is reported before a bad value in front of it. What the command line does not give is then
taken from the environment.
-/

namespace ShellDebugger

structure Options where
  source : Option Path
  shell : Option Path
  listCount : Option Nat
  /-- In seconds. -/
  terminateTimeout : Option Nat
  logLevel : Option String
  logJson : Bool
  deriving DecidableEq, Repr

namespace Options

def empty : Options := ⟨none, none, none, none, none, false⟩

inductive Stop where
  | help
  | version
  | refused (error : CommandLineError)
  deriving DecidableEq, Repr

structure Reading where
  options : Options
  /-- What was given, first given first. -/
  given : List Argument
  /-- The argument whose value was not looked at yet, and its value if that has come. -/
  pending : Option (Argument × Option Bytes)
  /-- Whether a positional argument was taken. -/
  positional : Bool
  /-- Whether all arguments are positional from here on. -/
  trailing : Bool

def Reading.start : Reading := ⟨.empty, [], none, false, false⟩

/-- A value as a path, which cannot be empty. -/
def pathOf (a : Argument) (value : Bytes) : Except Stop Path :=
  if value.isEmpty then .error (.refused (.missingValue a)) else .ok ⟨value⟩

def textOf (value : Bytes) : Except Stop String :=
  match Utf8.decode? value with
  | some text => .ok text
  | none => .error (.refused .invalidText)

def numberOf (a : Argument) (value : Bytes) : Except Stop Nat := do
  let text ← textOf value
  (Numeral.parse text).mapError fun reason ↦ .refused (.invalidNumber a text reason)

def truthOf (a : Argument) (value : Bytes) : Except Stop Bool :=
  let text := Utf8.decodeLossy value
  if value.isEmpty then .error (.refused (.missingValue a))
  else if text = "true" then .ok true
  else if text = "false" then .ok false
  else
    let similar := Similarity.mostSimilar? id text CommandLineError.choices
    .error (.refused (.invalidChoice a text similar))

def set (o : Options) (a : Argument) (value : Bytes) : Except Stop Options :=
  match a with
  | .source => do return { o with source := some (← pathOf a value) }
  | .shell => do return { o with shell := some (← pathOf a value) }
  | .listCount => do return { o with listCount := some (← numberOf a value) }
  | .terminateTimeout => do return { o with terminateTimeout := some (← numberOf a value) }
  | .logLevel => do return { o with logLevel := some (← textOf value) }
  | .logJson => do return { o with logJson := ← truthOf a value }
  | .help => .error .help
  | .version => .error .version

/-- Takes the value of an argument that must not have been given before. -/
def Reading.give (r : Reading) (a : Argument) (value : Bytes) : Except Stop Reading :=
  if r.given.contains a then .error (.refused (.repeated a))
  else do
    return { r with options := ← r.options.set a value, given := r.given ++ [a] }

def Reading.settle (r : Reading) : Except Stop Reading :=
  match r.pending with
  | none => .ok r
  | some (a, none) => .error (.refused (.missingValue a))
  | some (a, some value) => { r with pending := none }.give a value

/-- The usage line that shows what was given and an option that takes no value. -/
def Reading.usage (r : Reading) (other : Argument) : Usage where
  shown := r.given ++ [other]
  alternatives := !r.given.isEmpty

/-- What counts as given when an unknown option comes: also the argument whose value was not looked
at yet, whatever its value is. One that is given twice does not count. -/
def Reading.named (r : Reading) : List Argument :=
  match r.pending with
  | some (a, some _) => if r.given.contains a then r.given.erase a else r.given ++ [a]
  | _ => r.given

def Reading.refuseOption (r : Reading) (name : String) : Stop :=
  let known := Argument.all.filter (·.optionName?.isSome)
  let similar := Similarity.mostSimilar? (fun a ↦ a.optionName?.getD "") name known
  let named := r.named
  let shown := named ++ similar.toList.filter (!named.contains ·)
  .refused (.unexpected ("--" ++ name) similar similar.isNone ⟨shown, false⟩)

/-- Reads an option of a name, with the value after an equals sign if there is one. -/
def Reading.option (r : Reading) (name : Bytes) (value : Option Bytes) : Except Stop Reading :=
  match (Utf8.decode? name).bind Argument.ofOptionName?, value with
  | none, _ => .error (r.refuseOption (Utf8.decodeLossy name))
  | some a, value =>
    if a.valueName?.isSome then do
      let r ← r.settle
      match value with
      | some value => r.give a value
      | none => return { r with pending := some (a, none) }
    else
      match value with
      | some value =>
        .error (.refused (.unexpectedValue a (Utf8.decodeLossy value) (r.usage a)))
      | none => do (← r.settle).give a (Utf8.encode "true")

def Reading.letters (r : Reading) (letters : Bytes) : Except Stop Reading :=
  let shown := match (Utf8.decodeLossy letters).toList with
    | c :: rest => if c = '\uFFFD' then String.ofList (c :: rest) else String.ofList [c]
    | [] => ""
  match shown.toList.head?.bind Argument.ofLetter? with
  | some a => do (← r.settle).give a []
  | none => .error (.refused (.unexpected ("-" ++ shown) none true .general))

def dash : UInt8 := 0x2D

def equals : UInt8 := 0x3D

def Reading.positionalArgument (r : Reading) (argument : Bytes) : Except Stop Reading :=
  if r.positional then
    .error (.refused (.unexpected (Utf8.decodeLossy argument) none false .general))
  else do
    return { ← r.settle with pending := some (.source, some argument), positional := true }

def Reading.next (r : Reading) (argument : Bytes) : Except Stop Reading :=
  if r.trailing then r.positionalArgument argument
  else
    match argument with
    | [0x2D, 0x2D] => .ok { r with trailing := true }
    | 0x2D :: 0x2D :: long =>
      let name := long.takeWhile (· != equals)
      r.option name (long.drop name.length).tail?
    | 0x2D :: c :: rest => r.letters (c :: rest)
    | argument =>
      match r.pending with
      | some (a, none) => .ok { r with pending := some (a, some argument) }
      | _ => r.positionalArgument argument

def Reading.fromEnvironment (env : Environment) (r : Reading) (a : Argument) :
    Except Stop Reading :=
  match a.environmentName?.bind env.octets? with
  | some value => if r.given.contains a then .ok r else r.give a value
  | none => .ok r

def ofArguments (env : Environment) (arguments : List Bytes) : Except Stop Options := do
  let r ← arguments.foldlM Reading.next .start
  let r ← Argument.all.foldlM (Reading.fromEnvironment env) (← r.settle)
  return r.options

end Options
end ShellDebugger
