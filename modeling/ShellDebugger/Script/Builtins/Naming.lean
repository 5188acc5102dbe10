import ShellDebugger.Host.Executable
import ShellDebugger.Script.Builtins.Basic

/-!
# Names of commands

The commands that tell what a name leads to, and those that give names to texts.
-/

namespace ShellDebugger.Script.Builtins

open Run

inductive Meaning where
  | keyword
  | standsFor (text : Text)
  | function
  | special
  | builtin
  | file (path : Text)

def searchPath : Run (List UInt8) := do
  return octetsOf ((← valueOf? "PATH".toList).getD [])

def meaning? (name : Text) : Run (Option Meaning) := do
  let s ← shell
  let text := String.ofList name
  if Read.keywords.contains text then return some .keyword
  if let some text := s.aliases.lookup name then return some (.standsFor text)
  if (s.functions.lookup name).isSome then return some .function
  if special.contains text then return some .special
  if ordinary.contains text then return some .builtin
  match Executable.resolve (← files) (← searchPath) (octetsOf name) with
  | .ok (path, _) => return some (.file (textOf path.octets))
  | .error (.refused errno) =>
    return if errno = .noProgram then some (.file name) else none
  | .error _ => return none

def typeOf (status : Nat) : List Text → Run Nat
  | [] => return status
  | name :: rest => do
    let meaning ← meaning? name
    let words : Text := match meaning with
      | none => ": not found".toList
      | some .keyword => " is a shell keyword".toList
      | some (.standsFor text) => " is an alias for ".toList ++ text
      | some .function => " is a shell function".toList
      | some .special => " is a special shell builtin".toList
      | some .builtin => " is a shell builtin".toList
      | some (.file path) => " is ".toList ++ path
    let printed ← print (name ++ words ++ ['\n'])
    typeOf (if meaning.isNone then 127 else max status printed) rest

def tell (name : Text) : Run Nat := do
  match ← meaning? name with
  | none => return 127
  | some (.standsFor text) => print ("alias ".toList ++ name ++ '=' :: quoted text ++ ['\n'])
  | some (.file path) => print (path ++ ['\n'])
  | some _ => print (name ++ ['\n'])

def setAliases (status : Nat) : List Text → Run Nat
  | [] => return status
  | a :: rest => do
    match nameAndValue a with
    | (name, some text) =>
      if name.isEmpty then setAliases status rest
      else
        change fun s ↦ { s with aliases := (name, text) :: s.aliases.filter (·.1 != name) }
        setAliases status rest
    | (name, none) =>
      match (← shell).aliases.lookup name with
      | some text =>
        let _ ← print (name ++ '=' :: quoted text ++ ['\n'])
        setAliases status rest
      | none =>
        complain s!"alias: {shown name} not found"
        setAliases 1 rest

def aliases (arguments : List Text) : Run Nat := do
  match arguments with
  | [] =>
    let sorted := (← shell).aliases.mergeSort fun a b ↦ String.ofList a.1 ≤ String.ofList b.1
    print (sorted.flatMap fun (name, text) ↦ name ++ '=' :: quoted text ++ ['\n'])
  | _ => setAliases 0 arguments

def unalias (arguments : List Text) : Run Nat := do
  let (options, names) ← optionsOf ['a'] [] arguments
  if !options.isEmpty then
    change ({ · with aliases := [] })
    return 0
  let aliases := (← shell).aliases
  change fun s ↦ { s with aliases := s.aliases.filter (!names.contains ·.1) }
  return if names.all fun n ↦ (aliases.lookup n).isSome then 0 else 1

end ShellDebugger.Script.Builtins
