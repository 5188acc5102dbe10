import ShellDebugger.Script.Builtins
import ShellDebugger.Script.Evaluation.Call
import ShellDebugger.Script.Evaluation.Process
import ShellDebugger.Script.Programs.Cat
import ShellDebugger.Script.Programs.Head
import ShellDebugger.Script.Programs.Silent
import ShellDebugger.Script.Programs.Tr

/-!
# Running scripts

Runs the commands of a script one complete command after another. Commands that are processes of
their own are forked, and what they change in the interpreter is theirs. Between commands the
actions of traps run. Every step takes one unit of `fuel`; a process that uses all of it dies.
-/

namespace ShellDebugger.Script.Evaluation

open Run

mutual

/-- Runs the actions of traps whose signals have come. -/
def pause : Nat → Run Unit
  | 0 => overflow
  | fuel + 1 => do
    let news : List Nat ← ask .caught
    let arrived := (← shell).arrived ++ news
    unless arrived.isEmpty do
      change ({ · with arrived := [] })
      actions arrived.mergeSort fuel

/-- Runs the actions of the traps of some signals. The status is what it was. -/
def actions : List Nat → Nat → Run Unit
  | [], _ => return ()
  | _, 0 => overflow
  | signal :: rest, fuel + 1 => do
    let s ← shell
    match s.traps.lookup signal with
    | none | some [] => actions rest fuel
    | some action =>
      let before := s.interrupted
      let status := before.getD s.status
      let back : Run Unit := change ({ · with interrupted := before, status := status })
      change ({ · with interrupted := some status })
      try
        let _ ← runText action .plain 0 fuel
      catch
        | .returned (some n) =>
          back
          throw (.returned (some n))
        | .exit none =>
          back
          throw (.exit (some status))
        | .exit (some n) => throw (.exit (some n))
        | .failure => throw .failure
        | halt =>
          back
          throw halt
      back
      actions rest fuel

/-- Runs the text of a script; the status, which is that of the text before it if there are no
commands. -/
def runText (text : Text) (m : Mode) (status : Nat) : Nat → Run Nat
  | 0 => overflow
  | fuel + 1 => do
    match ← readNext text true with
    | .nothing | .part => return status
    | .command c rest ends =>
      run c { m with isLast := m.isLast && ends } fuel
      runText rest m (← shell).status fuel

/-- Runs a script that is read from a descriptor, as far as it is there; the status. -/
def runFile (descriptor : Nat) (buffer : Text) (ended : Bool) : Nat → Run Unit
  | 0 => overflow
  | fuel + 1 => do
    let isVerbose ← isOn 'v'
    match ← readNext buffer ended with
    | .command c rest _ =>
      if isVerbose then
        let _ ← write 2 (buffer.take (buffer.length - rest.length))
      run c .plain fuel
      runFile descriptor rest ended fuel
    | _ =>
      if ended then
        if isVerbose then
          let _ ← write 2 buffer
        return ()
      match ← ask (.read descriptor Programs.block false) with
      | .error _ | .ok [] => runFile descriptor buffer true fuel
      | .ok text => runFile descriptor (buffer ++ text.filter (· != '\x00')) false fuel

/-- Runs a script to its end and then the trap of the exit; the status. -/
def toEnd (body : Run Unit) : Nat → Run Nat
  | 0 => overflow
  | fuel + 1 => do
    try body catch
      | .exit (some status) | .returned (some status) => setStatus status
      | _ => pure ()
    let s ← shell
    match s.traps.lookup 0 with
    | none | some [] => return s.status
    | some action =>
      change fun t ↦
        { t with traps := t.traps.filter (·.1 != 0), interrupted := some s.status }
      try
        let _ ← runText action .plain 0 fuel
        return s.status
      catch
        | .exit (some status) => return status
        | .failure => return (← shell).status
        | _ => return s.status

def substitute (script : Text) : Nat → Run Text
  | 0 => overflow
  | fuel + 1 => do
    let (reader, writer) ← ask .pipe
    let child ← fork do
      enter false
      ask (.close reader)
      let _ ← ask (.copy writer 1)
      ask (.close writer)
      toEnd (do let _ ← runText script ⟨false, true⟩ 0 fuel) fuel
    ask (.close writer)
    let text ← Programs.readAll reader [] Programs.rounds
    ask (.close reader)
    let status ← Builtins.await [child]
    change ({ · with substituted := status })
    return text.toOption.getD []

/-- Runs a program in the place of the process, under the name by which it was called; its
status. -/
def program (p : Program) (calledBy : Text) (arguments : List Text) : Nat → Run Nat
  | 0 => overflow
  | fuel + 1 =>
    match p with
    | .cat => Programs.cat arguments
    | .true => return 0
    | .false => return 1
    | .sleep => Programs.sleep arguments
    | .tr => Programs.tr arguments
    | .head => Programs.head arguments
    | .mv => Programs.mv arguments
    | .echo => do
      let (words, lineEnd) : List Text × Text := match arguments with
        | ['-', 'n'] :: rest => (rest, [])
        | words => (words, ['\n'])
      return if ← Programs.put "echo" ([' '].intercalate words ++ lineEnd) then 0 else 1
    | .printf => do
      let (text, status) := Format.printf (arguments.headD []) (arguments.drop 1)
      return if ← Programs.put "printf" text then min status 1 else 1
    | .env => do
      let assignments := arguments.takeWhile (·.contains '=')
      for a in assignments do
        let (name, value) := Builtins.nameAndValue a
        setVariable name ⟨value, true, false⟩
      match arguments.drop assignments.length with
      | [] =>
        let lines := ((← shell).bindings.filter (·.2.exported)).flatMap fun (name, v) ↦
          (v.value.map fun value ↦ name ++ '=' :: value ++ ['\n']).getD []
        return if ← Programs.put "env" lines then 0 else 1
      | name :: rest => launch (← Builtins.searchPath) name rest fuel
    | .shell => do
      startFresh calledBy
      toEnd (interpret arguments fuel) fuel

def interpret (arguments : List Text) : Nat → Run Unit
  | 0 => overflow
  | fuel + 1 => do
    let invocation ← Builtins.setOptions true false arguments (arguments.length + 1)
    let rest := invocation.rest.getD []
    if invocation.hasScript then
      match rest with
      | [] => fail "-c requires an argument"
      | script :: rest =>
        change fun s ↦ { s with name := rest.headD s.name, arguments := rest.drop 1 }
        let _ ← runText script ⟨false, true⟩ 0 fuel
    else if rest.isEmpty ∨ (← isOn 's') then
      change fun s ↦
        { s with arguments := rest, options := 's' :: s.options.filter (· != 's') }
      runFile 0 [] false fuel
    else
      let path := rest.headD []
      match ← openFile firstKept path .read with
      | .error cause => fail s!"cannot open {shown path}: {Programs.reasonOf cause}"
      | .ok () =>
        change ({ · with name := path, arguments := rest.drop 1 })
        runFile firstKept [] false fuel

/-- Runs a program by its name in the place of the process; its status. -/
def launch (path : List UInt8) (name : Text) (arguments : List Text) : Nat → Run Nat
  | 0 => overflow
  | fuel + 1 => do
    match ← find path name arguments with
    | .error status => return status
    | .ok found =>
      ask .become
      program found.program name found.arguments fuel

def exec (name : Text) (arguments : List Text) : Nat → Run Nat
  | 0 => overflow
  | fuel + 1 => do
    match ← find (← Builtins.searchPath) name arguments with
    | .error status => throw (.exit (some status))
    | .ok found =>
      ask .become
      quit (← program found.program name found.arguments fuel)

def runScript (path : Text) : Nat → Run Nat
  | 0 => overflow
  | fuel + 1 => do
    let tree ← files
    let paths := Executable.pathsFor (← Builtins.searchPath) (octetsOf path)
    let isThere (p : Path) : Bool := match tree.find p with
      | .ok (_, node) => path.contains '/' || !node.isDirectory
      | .error _ => false
    match paths.find? isThere with
    | none => fail s!".: {shown path}: not found"
    | some p =>
      let content := (tree.read p).toOption.getD []
      try
        runText ((textOf content).filter (· != '\x00')) .plain 0 fuel
      catch
        | .returned status =>
          if let some status := status then setStatus status
          return (← shell).status
        | halt => throw halt

def function (body : Command) (arguments : List Text) (m : Mode) : Nat → Run Nat
  | 0 => overflow
  | fuel + 1 => do
    let before ← shell
    if before.calls ≥ deepestCall then
      fail s!"Maximum function recursion depth ({deepestCall}) reached"
    change ({ · with
      arguments
      optionIndex := 1
      optionOffset := none
      loops := 0
      calls := before.calls + 1 })
    let act : Run Unit := try run body m.inside fuel catch
      | .returned status => if let some status := status then setStatus status
      | halt => throw halt
    andFinally act <| change ({ · with
      arguments := before.arguments
      optionIndex := before.optionIndex
      optionOffset := before.optionOffset
      loops := before.loops
      calls := before.calls })
    return (← shell).status

/-- Runs a command of the interpreter, if there is one of that name. -/
def builtin? (c : Call) (m : Mode) : Nat → Option (Run Nat)
  | 0 => some overflow
  | fuel + 1 =>
    match String.ofList c.name with
    | "eval" => some do
      if c.arguments.isEmpty then return 0
      runText ([' '].intercalate c.arguments) m.inside 0 fuel
    | "." => some do
      match if c.arguments.head? = some ['-', '-'] then c.arguments.drop 1 else c.arguments with
      | [] => return 0
      | path :: _ => runScript path fuel
    | "exec" => some do
      match if c.arguments.head? = some ['-', '-'] then c.arguments.drop 1 else c.arguments with
      | [] => return 0
      | name :: rest => exec name rest fuel
    | "command" => some do
      let (options, names) ← Builtins.optionsOf ['p', 'v', 'V'] [] c.arguments
      match names with
      | [] => return 0
      | name :: _ =>
        if options.contains 'V' then Builtins.typeOf 0 [name] else Builtins.tell name
    | name => Builtins.run? name c.arguments

def simple (assignments : List (Text × Word)) (words : List Word) (redirects : List Redirect)
    (m : Mode) : Nat → Run Unit
  | 0 => overflow
  | fuel + 1 => do
    let substitution : Expansion.Substitute := fun script ↦ substitute script fuel
    change ({ · with substituted := 0 })
    let fields ← fieldsOf substitution [] words
    match callOf fields with
    | none =>
      let targets ← targetsOf substitution redirects
      redirecting false targets
        (fun saved ↦ do
          let assigned ← assignAll substitution false assignments
          trace substitution saved assigned
          setStatus (← shell).substituted)
        (pure ())
    | some c =>
      let functions := (← shell).functions
      let body := if c.functions then functions.lookup c.name else none
      let own := if body.isSome then none else builtin? c m fuel
      let isDirect := c.arguments.length + 1 = fields.length
      let isSpecial := own.isSome && isDirect &&
        Builtins.special.contains (String.ofList c.name)
      let isExec := own.isSome && c.name = "exec".toList
      let act : Run Unit := do
        let targets ← targetsOf substitution redirects
        redirecting isExec targets
          (fun saved ↦ do
            let assigned ← assignAll substitution (!isSpecial) assignments
            if isExec ∧ !c.arguments.isEmpty then
              for (name, _) in assignments do
                if let some v := (← shell).bindings.lookup name then
                  setVariable name { v with exported := true }
            trace substitution saved (assigned ++ fields)
            match body, own with
            | some body, _ => setStatus (← function body c.arguments m fuel)
            | none, some command =>
              try setStatus (← command) catch
                | .failure => if isSpecial then throw .failure else setStatus 2
                | halt => throw halt
            | none, none => external c m fuel)
          (if isSpecial then throw .failure else pure ())
      if isSpecial then act else locally act

/-- Runs a program as a process of its own, or in the place of the interpreter if that has nothing
more to do. -/
def external (c : Call) (m : Mode) : Nat → Run Unit
  | 0 => overflow
  | fuel + 1 => do
    let path ← if c.usually then pure Executable.usualPath else Builtins.searchPath
    if ← mayBecome m then quit (← launch path c.name c.arguments fuel)
    else
      let child ← fork (launch path c.name c.arguments fuel)
      setStatus (← Builtins.await [child])

/-- Runs a command as what is left of a process, with descriptors redirected. -/
def alone (c : Command) (targets : List (Nat × Target)) (m : Mode) : Nat → Run Nat
  | 0 => overflow
  | fuel + 1 =>
    toEnd
      (redirecting true targets (fun _ ↦ run c { m with isLast := true } fuel) (throw .failure))
      fuel

def subshell (body : Command) (redirects : List Redirect) (m : Mode) : Nat → Run Unit
  | 0 => overflow
  | fuel + 1 => do
    let targets ← targetsOf (fun script ↦ substitute script fuel) redirects
    if ← mayBecome m then
      enter false
      quit (← alone body targets m fuel)
    else
      let child ← fork do
        enter false
        alone body targets m fuel
      setStatus (← Builtins.await [child])

/-- Starts the stages of a pipeline, the first on some descriptor; their processes. -/
def stages (input : Option Nat) (inBackground : Bool) (m : Mode) :
    List Command → Nat → Run (List Nat)
  | _, 0 => overflow
  | [], _ => return []
  | c :: rest, fuel + 1 => do
    let pipe ← if rest.isEmpty then pure none else some <$> ask .pipe
    let child ← fork do
      enter inBackground
      if let some (reader, _) := pipe then ask (.close reader)
      match input with
      | some input =>
        let _ ← ask (.copy input 0)
        ask (.close input)
      | none => if inBackground then noInput
      if let some (_, writer) := pipe then
        let _ ← ask (.copy writer 1)
        ask (.close writer)
      alone c [] m fuel
    if let some input := input then ask (.close input)
    if let some (_, writer) := pipe then ask (.close writer)
    return child :: (← stages (pipe.map (·.1)) inBackground m rest fuel)

/-- Runs a command in the background. The stages of a pipeline are processes of the job itself. -/
def background (c : Command) (m : Mode) : Nat → Run Unit
  | 0 => overflow
  | fuel + 1 => do
    let job ← match c with
      | .pipeline false cs | .group (.pipeline false cs) => stages none true m cs fuel
      | .redirected body redirects => do
        let targets ← targetsOf (fun script ↦ substitute script fuel) redirects
        pure [← fork do
          enter true
          noInput
          alone body targets .plain fuel]
      | c => do
        pure [← fork do
          enter true
          noInput
          alone c [] .plain fuel]
    change fun s ↦ { s with jobs := job :: s.jobs, lastJob := job.getLast?, status := 0 }

def sequence (m : Mode) : List Command → Nat → Run Unit
  | [], _ => return ()
  | _, 0 => overflow
  | [c], fuel + 1 => run c m fuel
  | c :: rest, fuel + 1 => do
    run c m.inside fuel
    sequence m rest fuel

/-- Runs a part of a loop: how many loops are left, if any, and whether the loop goes on then. -/
def part (c : Command) (m : Mode) : Nat → Run (Option Bool)
  | 0 => overflow
  | fuel + 1 =>
    try
      run c m fuel
      return none
    catch
      | .leave (n + 2) => throw (.leave (n + 1))
      | .leave _ => return some false
      | .again (n + 2) => throw (.again (n + 1))
      | .again _ => return some true
      | halt => throw halt

/-- Runs a body as long as a condition has the wanted outcome. -/
def loop (wanted : Bool) (condition body : Command) (m : Mode) (status : Nat) : Nat → Run Unit
  | 0 => overflow
  | fuel + 1 => do
    match ← part condition .test fuel with
    | some true => loop wanted condition body m status fuel
    | some false => setStatus status
    | none =>
      if ((← shell).status == 0) == wanted then
        match ← part body m.inside fuel with
        | some false => return ()
        | _ => loop wanted condition body m (← shell).status fuel
      else setStatus status

def each (name : Text) (body : Command) (m : Mode) : List Text → Nat → Run Unit
  | _, 0 => overflow
  | [], _ => return ()
  | w :: rest, fuel + 1 => do
    Builtins.mustAssign name w
    match ← part body m.inside fuel with
    | some false => return ()
    | _ => each name body m rest fuel

/-- The body of the first arm of which a pattern matches a subject. -/
def chosen (subject : Text) : List (List Word × Command) → Nat → Run (Option Command)
  | _, 0 => overflow
  | [], _ => return none
  | (patterns, body) :: rest, fuel + 1 => do
    for w in patterns do
      let pattern ← Expansion.pattern (fun script ↦ substitute script fuel) w
      if Pattern.isMatch pattern subject then return some body
    chosen subject rest fuel

def looping (act : Run Unit) : Nat → Run Unit
  | 0 => overflow
  | _ + 1 => do
    change fun s ↦ { s with loops := s.loops + 1 }
    andFinally act <| change fun s ↦ { s with loops := s.loops - 1 }

/-- Runs a command that may fail, and then the actions of traps. -/
def checked (m : Mode) (act : Run Unit) : Nat → Run Unit
  | 0 => overflow
  | fuel + 1 => do
    act
    pause fuel
    checkStatus m

def run (c : Command) (m : Mode) : Nat → Run Unit
  | 0 => overflow
  | fuel + 1 => do
    if ← isOn 'n' then return
    pause fuel
    let substitution : Expansion.Substitute := fun script ↦ substitute script fuel
    match c with
    | .simple assignments words redirects =>
      checked m (simple assignments words redirects m fuel) fuel
    | .pipeline true cs =>
      match cs with
      | [c] => run c .test fuel
      | cs =>
        checked .test (do setStatus (← Builtins.await (← stages none false .test cs fuel))) fuel
      setStatus (if (← shell).status = 0 then 1 else 0)
    | .pipeline false cs =>
      checked m (do setStatus (← Builtins.await (← stages none false m cs fuel))) fuel
    | .andThen first second =>
      run first .test fuel
      if (← shell).status = 0 then run second m fuel
    | .orElse first second =>
      run first .test fuel
      if (← shell).status ≠ 0 then run second m fuel
    | .background c => checked m (background c m fuel) fuel
    | .sequence cs => sequence m cs fuel
    | .subshell body => checked m (subshell body [] m fuel) fuel
    | .group body => run body m fuel
    | .conditional condition whenTrue whenFalse =>
      run condition .test fuel
      if (← shell).status = 0 then run whenTrue m fuel
      else
        match whenFalse with
        | some whenFalse => run whenFalse m fuel
        | none => setStatus 0
    | .loop wanted condition body =>
      looping (loop wanted condition body m 0 fuel) fuel
    | .each name words body =>
      let values ← match words with
        | none => do pure (← shell).arguments
        | some ws => Expansion.allFields substitution ws
      if values.isEmpty then setStatus 0
      else looping (each name body m values fuel) fuel
    | .choice subject arms =>
      let text ← Expansion.text substitution subject
      match ← chosen text arms fuel with
      | none | some (.sequence []) => setStatus 0
      | some body => run body m fuel
    | .define name body =>
      change fun s ↦ { s with functions := setEntry name body s.functions, status := 0 }
    | .redirected (.subshell body) redirects =>
      checked m (subshell body redirects m fuel) fuel
    | .redirected body redirects =>
      let targets ← targetsOf substitution redirects
      redirecting false targets (fun _ ↦ run body m.inside fuel) (checkStatus m)

end

end ShellDebugger.Script.Evaluation
