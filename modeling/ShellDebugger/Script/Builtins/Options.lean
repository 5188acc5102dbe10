import ShellDebugger.Script.Builtins.Basic
import ShellDebugger.Script.Expansion

/-!
# Options

The options of the interpreter, which its command line and the command `set` turn on and off, and
the command that reads the options of a script.
-/

namespace ShellDebugger.Script.Builtins

open Run

def optionNames : List (String × Option Char) :=
  [("errexit", some 'e'), ("noglob", some 'f'), ("ignoreeof", some 'I'), ("interactive", some 'i'),
   ("monitor", some 'm'), ("noexec", some 'n'), ("stdin", some 's'), ("xtrace", some 'x'),
   ("verbose", some 'v'), ("vi", some 'V'), ("emacs", some 'E'), ("noclobber", some 'C'),
   ("allexport", some 'a'), ("notify", some 'b'), ("nounset", some 'u'), ("privileged", some 'p'),
   ("nolog", none), ("debug", none)]

def setOption (on : Bool) (letter : Char) : Run Unit := do
  unless Expansion.optionLetters.contains letter do fail s!"Illegal option -{letter}"
  change fun s ↦
    let others := s.options.filter (· != letter)
    { s with options := if on then letter :: others else others }

def setNamedOption (on : Bool) (name : Text) : Run Unit := do
  match optionNames.lookup (String.ofList name) with
  | some (some letter) => setOption on letter
  | some none => return ()
  | none => fail s!"Illegal option -o {shown name}"

def listOptions (inWords : Bool) : Run Nat := do
  let on := (← shell).options
  let isOn (letter : Option Char) : Bool := letter.any on.contains
  let lines := optionNames.map fun (name, letter) ↦
    if inWords then
      let blanks := String.ofList (List.replicate (16 - name.length) ' ')
      name ++ blanks ++ (if isOn letter then "on" else "off") ++ "\n"
    else (if isOn letter then "set -o " else "set +o ") ++ name ++ "\n"
  let title := if inWords then "Current option settings\n" else ""
  print (title ++ String.join lines).toList

/-- What the options of a command line say besides. -/
structure Invocation where
  /-- Whether the script is an argument. -/
  hasScript : Bool
  /-- The arguments behind the options. None at all, without a mark for their end, is no list. -/
  rest : Option (List Text)

/-- Turns the options of an argument on or off: whether the script is an argument, and the arguments
behind the names of options. -/
def setLetters (isStart on hasScript : Bool) (rest : List Text) :
    List Char → Run (Bool × List Text)
  | [] => return (hasScript, rest)
  | 'o' :: letters => do
    match rest with
    | [] =>
      let _ ← listOptions on
      setLetters isStart on hasScript [] letters
    | name :: rest =>
      setNamedOption on name
      setLetters isStart on hasScript rest letters
  | c :: letters => do
    if isStart && c = 'c' then setLetters isStart on true rest letters
    else if isStart && c = 'l' then setLetters isStart on hasScript rest letters
    else
      setOption on c
      setLetters isStart on hasScript rest letters

/-- Turns options on and off as arguments say, when the interpreter starts or later. -/
def setOptions (isStart hasScript : Bool) : List Text → Nat → Run Invocation
  | [], _ => return ⟨hasScript, none⟩
  | _, 0 => return ⟨hasScript, none⟩
  | ['-', '-'] :: rest, _ => return ⟨hasScript, some rest⟩
  | ['-'] :: rest, _ => do
    unless isStart do
      change fun s ↦ { s with options := s.options.filter fun c ↦ c != 'x' && c != 'v' }
    return ⟨hasScript, if rest.isEmpty then none else some rest⟩
  | (sign :: letters) :: rest, fuel + 1 => do
    if sign = '-' ∨ sign = '+' then
      let (hasScript, rest) ← setLetters isStart (sign = '-') hasScript rest letters
      setOptions isStart hasScript rest fuel
    else return ⟨hasScript, some ((sign :: letters) :: rest)⟩
  | rest, _ => return ⟨hasScript, some rest⟩

def set (arguments : List Text) : Run Nat := do
  if arguments.isEmpty then list [] (·.value.isSome)
  else
    let invocation ← setOptions false false arguments (arguments.length + 1)
    if let some rest := invocation.rest then
      change ({ · with arguments := rest, optionIndex := 1, optionOffset := none })
    return 0

/-! ## Options of scripts -/

structure OptionRead where
  /-- Its letter, or a question mark for what is none. -/
  letter : Char
  /-- Its argument, which is empty if it has none, or what is wrong if that is told so. -/
  argument : Option Text
  /-- The number of the argument at which options are read next. -/
  index : Nat
  /-- The place in the argument before that one, if options in it are left. -/
  offset : Option Nat
  complaint : Option String
  /-- Whether there are no more options. -/
  isOver : Bool

/-- The options at which reading goes on: their letters, the place of the first of them in its
argument, and the number of the next argument. If there are none, only that number is left. -/
def optionsFrom (arguments : List Text) (index : Nat) (offset : Option Nat) :
    Except Nat (Text × Nat × Nat) :=
  let left : Option (Text × Nat) :=
    offset.bind fun n ↦
      if index ≤ 1 then none
      else (arguments[index - 2]?).bind fun a ↦ if n < a.length then some (a.drop n, n) else none
  match left, arguments[index - 1]? with
  | some (letters, n), _ => .ok (letters, n, index)
  | none, some ['-', '-'] => .error (index + 1)
  | none, some ('-' :: c :: letters) => .ok (c :: letters, 1, index + 1)
  | none, _ => .error index

/-- Reads the next option of some arguments. The wanted letters have a colon behind them if an
argument follows; a colon in front of all asks for no complaints. -/
def nextOption (wanted : Text) (arguments : List Text) (index : Nat) (offset : Option Nat) :
    OptionRead :=
  let silent := wanted.head? = some ':'
  match optionsFrom arguments index offset with
  | .error index => ⟨'?', none, index, none, none, true⟩
  | .ok (letters, n, index) =>
    let c := letters.headD '?'
    let rest := letters.drop 1
    let next : Option Nat := if rest.isEmpty then none else some (n + 1)
    let listed := if c = ':' then [] else wanted.dropWhile (· != c)
    match listed with
    | [] =>
      if silent then ⟨'?', some [c], index, next, none, false⟩
      else ⟨'?', none, index, next, some s!"Illegal option -{c}", false⟩
    | _ :: ':' :: _ =>
      if !rest.isEmpty then ⟨c, some rest, index, none, none, false⟩
      else
        match arguments[index - 1]? with
        | some argument => ⟨c, some argument, index + 1, none, none, false⟩
        | none =>
          if silent then ⟨':', some [c], index, none, none, false⟩
          else ⟨'?', none, index, none, some s!"No arg for -{c} option", false⟩
    | _ => ⟨c, some [], index, next, none, false⟩

/-- Reads the next option of the script or of some arguments into a variable. -/
def getopts (arguments : List Text) : Run Nat := do
  match arguments with
  | wanted :: name :: given =>
    let s ← shell
    let r := nextOption wanted (if given.isEmpty then s.arguments else given) s.optionIndex
      s.optionOffset
    if let some complaint := r.complaint then complain complaint
    match r.argument with
    | some argument => mustAssign "OPTARG".toList argument
    | none =>
      unless r.isOver do
        change fun s ↦ { s with bindings := s.bindings.filter (·.1 != "OPTARG".toList) }
    mustAssign "OPTIND".toList (toString r.index).toList
    change ({ · with optionIndex := r.index, optionOffset := r.offset })
    mustAssign name [r.letter]
    return if r.isOver then 1 else 0
  | _ => fail "getopts: Usage: getopts optstring var [arg]"

end ShellDebugger.Script.Builtins
