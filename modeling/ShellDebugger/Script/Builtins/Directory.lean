import ShellDebugger.Script.Builtins.Basic

/-!
# The directory of the interpreter

The commands that change and print the directory, and those about the permissions of new files. A
directory is known by the path by which it was reached, so that `..` leads back through links.
-/

namespace ShellDebugger.Script.Builtins

open Run

def placeText (place : Place) : Text :=
  if place.isEmpty then ['/'] else place.flatMap fun name ↦ '/' :: textOf name

def namesOf (path : Text) : List Text :=
  (path.splitOn '/').filter (!·.isEmpty)

/-- How a path begins: two slashes, and no more, are a beginning of their own. -/
def rootOf (path : Text) : Text :=
  if (path.takeWhile (· == '/')).length = 2 then ['/', '/'] else ['/']

/-- The path that another one leads to from a path, without dots. -/
def pathFrom (path target : Text) : Text :=
  let isAbsolute := target.head? = some '/'
  let root := rootOf (if isAbsolute then target else path)
  let names := (namesOf target).foldl
    (fun names name ↦
      if name = ['.'] then names
      else if name = ['.', '.'] then names.dropLast
      else names ++ [name])
    (if isAbsolute then [] else namesOf path)
  root ++ ['/'].intercalate names

/-- Whether a target is looked for nowhere but where it says. -/
def isFixed (target : Text) : Bool :=
  target.head? == some '/' || target == ['.'] || target == ['.', '.'] ||
    "./".toList.isPrefixOf target || "../".toList.isPrefixOf target

def goTo (target : Text) (physical : Bool) : Run Bool := do
  let s ← shell
  let path := pathFrom s.path target
  match (← files).find ⟨octetsOf (if physical then target else path)⟩ with
  | .ok (place, .directory) =>
    let path := if physical then placeText place else path
    setVariable "OLDPWD".toList ⟨some s.path, true, false⟩
    setVariable "PWD".toList ⟨some path, true, false⟩
    change ({ · with directory := place, path := path })
    return true
  | _ => return false

def cd (arguments : List Text) : Run Nat := do
  let (options, targets) ← optionsOf ['L', 'P'] [] arguments
  let physical := options.getLast? = some 'P'
  let (target, shows) : Text × Bool ← match targets with
    | [] => do pure ((← valueOf? "HOME".toList).getD [], false)
    | ['-'] :: _ => do pure ((← valueOf? "OLDPWD".toList).getD [], true)
    | target :: _ => pure (target, false)
  let wanted := if target.isEmpty then ['.'] else target
  let listed : Option Text ← if isFixed wanted then pure none else valueOf? "CDPATH".toList
  let places := ((listed.map (·.splitOn ':')).getD []).map fun d ↦
    if d.isEmpty then (wanted, shows) else (d ++ '/' :: wanted, true)
  let tree ← files
  let found := places.find? fun (path, _) ↦
    match tree.find ⟨octetsOf path⟩ with
    | .ok (_, node) => node.isDirectory
    | .error _ => false
  let (path, shows) := found.getD (wanted, shows)
  unless ← goTo path physical do fail s!"cd: can't cd to {shown target}"
  if shows then print ((← shell).path ++ ['\n']) else return 0

def pwd (arguments : List Text) : Run Nat := do
  let (options, _) ← optionsOf ['L', 'P'] [] arguments
  let s ← shell
  print ((if options.getLast? = some 'P' then placeText s.directory else s.path) ++ ['\n'])

/-! ## Permissions of new files -/

def permissionText (bits : Nat) : String :=
  (if bits &&& 4 = 0 then "" else "r") ++ (if bits &&& 2 = 0 then "" else "w") ++
    (if bits &&& 1 = 0 then "" else "x")

/-- The permissions that letters ask for, given all that somebody has. -/
def permissionBits (allowed : Nat) (c : Char) : Nat :=
  match c with
  | 'r' => 0o444
  | 'w' => 0o222
  | 'x' | 'X' => 0o111
  | 'u' => (allowed >>> 6 &&& 7) * 0o111
  | 'g' => (allowed >>> 3 &&& 7) * 0o111
  | 'o' => (allowed &&& 7) * 0o111
  | _ => 0

/-- Changes what is allowed as one clause such as `g+w` says. -/
def changeAllowed (allowed : Nat) (clause : Text) : Option Nat :=
  let whom := clause.takeWhile ['u', 'g', 'o', 'a'].contains
  let who := whom.foldl
    (fun bits c ↦ bits ||| (match c with
      | 'u' => 0o700
      | 'g' => 0o070
      | 'o' => 0o007
      | _ => 0o777)) 0
  let who := if whom.isEmpty then 0o777 else who
  actions who allowed (clause.drop whom.length) (clause.length + 1)
where
  /-- Does what follows the first letters of a clause. -/
  actions (who allowed : Nat) : Text → Nat → Option Nat
    | _, 0 => none
    | [], _ => some allowed
    | c :: rest, fuel + 1 =>
      let letters := rest.takeWhile fun c ↦ !(['+', '-', '='].contains c)
      if letters.all ['r', 'w', 'x', 'X', 'u', 'g', 'o'].contains then
        let bits := letters.foldl (fun bits c ↦ bits ||| permissionBits allowed c) 0 &&& who
        let rest := rest.drop letters.length
        match c with
        | '+' => actions who (allowed ||| bits) rest fuel
        | '-' => actions who (allowed - (allowed &&& bits)) rest fuel
        | '=' => actions who ((allowed - (allowed &&& who)) ||| bits) rest fuel
        | _ => none
      else none

def umask (arguments : List Text) : Run Nat := do
  let (options, rest) ← optionsOf ['S'] [] arguments
  let mask := (← shell).mask
  let allowed := 0o777 - mask
  match rest with
  | [] =>
    if options.isEmpty then
      let digits := Nat.toDigits 8 mask
      print (List.replicate (4 - digits.length) '0' ++ digits ++ ['\n'])
    else
      let user := permissionText (allowed >>> 6)
      let group := permissionText (allowed >>> 3)
      let others := permissionText allowed
      print s!"u={user},g={group},o={others}\n".toList
  | wanted :: _ =>
    if (wanted.head?.map Char.isDigit).getD false then
      match Arithmetic.digits? 8 wanted with
      | some n =>
        change ({ · with mask := n &&& 0o777 })
        return 0
      | none => fail s!"umask: Illegal number: {shown wanted}"
    else
      match (wanted.splitOn ',').foldl (fun a c ↦ a.bind (changeAllowed · c)) (some allowed) with
      | some allowed =>
        change ({ · with mask := 0o777 - allowed })
        return 0
      | none => fail s!"umask: Illegal mode: {shown wanted}"

end ShellDebugger.Script.Builtins
