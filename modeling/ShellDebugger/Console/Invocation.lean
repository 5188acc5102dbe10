import ShellDebugger.CommandLine.Options
import ShellDebugger.Console.Lifetime
import ShellDebugger.Console.Loop
import ShellDebugger.Log.Record
import ShellDebugger.Machine.Basic
import ShellDebugger.Settings.Layers
import ShellDebugger.Text.Grapheme

/-!
# Invocations

One run of the debugger as a program: its arguments, environment and input lead to what it prints
and the code it exits with. A shell's output is printed when the shell is torn down, before
anything that its command prints.

Input that is not typed comes from a file or a pipe, as lines that end at LF, with a CR before it
dropped, and the last may lack its LF. A backspace takes the character before it away, as if the
line had been typed. Octets that are no text are an error, and nothing after them is read.
-/

namespace ShellDebugger.Console

/-! ## Input that is not typed -/

def backspace : Char := '\x08'

/-- The octets that are left when every backspace has taken away the cluster before it. `sizes` are
the sizes of the clusters in `text`, last one first. A size is kept in one octet, so only the
remainder of a huge cluster is taken away. -/
def eraseBefore (text : Bytes) (sizes : List UInt8) : List (List Char) → Bytes
  | [] => text
  | cluster :: rest =>
    if cluster = [backspace] then
      match sizes with
      | [] => eraseBefore text [] rest
      | size :: sizes => eraseBefore (text.take (text.length - size.toNat)) sizes rest
    else
      let octets := Utf8.encodeChars cluster
      eraseBefore (text ++ octets) (UInt8.ofNat octets.length :: sizes) rest

/-- A line without its backspaces and what they take away. -/
def withoutErased (line : String) : String :=
  let text := line.toList
  if text.contains backspace then
    Utf8.decodeLossy (eraseBefore [] [] (Grapheme.clusters text))
  else line

/-- The octets up to the end of each line, which is there if it was found. -/
def lineOctets (octets : Bytes) : List (Bytes × Bool) :=
  match octets.splitOn 0x0A with
  | [] => []
  | pieces =>
    let last := pieces.getLast?.getD []
    pieces.dropLast.map (·, true) ++ if last.isEmpty then [] else [(last, false)]

def readingOf (line : Bytes × Bool) : Reading :=
  match Utf8.decode? line.1 with
  | none => .failed IoError.invalidText.message
  | some text =>
    let endsInReturn := line.2 && text.toList.getLast? = some '\r'
    .line (withoutErased (if endsInReturn then String.ofList text.toList.dropLast else text))

def readings (octets : Bytes) : List Reading :=
  let all := (lineOctets octets).map readingOf
  let good := all.takeWhile fun
    | .failed _ => false
    | _ => true
  good ++ (all.drop good.length).take 1

/-! ## The run of the debugger -/

structure Invocation where
  arguments : List Bytes
  environment : Environment
  /-- The directory in which it is started. -/
  directory : Path
  /-- The home directory of the account. -/
  account : Path
  input : Bytes
  /-- The time that log records bear. -/
  time : String

/-- What the program has printed, and the machine it runs on. -/
structure Site where
  stdout : Bytes
  stderr : Bytes
  machine : Machine

namespace Site

def ofMachine (m : Machine) : Site := ⟨[], [], m⟩

def print (s : Site) (text : Bytes) : Site :=
  { s with stdout := s.stdout ++ text }

def complain (s : Site) (text : String) : Site :=
  { s with stderr := s.stderr ++ Utf8.encode text }

/-- Prints what a machine has relayed, and goes on with that machine. -/
def goOn (s : Site) (m : Machine) : Site where
  stdout := s.stdout ++ m.relayed.stdout
  stderr := s.stderr ++ m.relayed.stderr
  machine := { m with relayed := ⟨[], []⟩ }

/-- Prints what a machine has relayed as far as there was time for it, and goes on with that
machine. -/
def hurryOn (s : Site) (m : Machine) : Site :=
  let inTime (relayed late : Bytes) : Bytes := relayed.take (relayed.length - late.length)
  s.goOn
    { m with
      relayed :=
        ⟨inTime m.relayed.stdout m.late.stdout, inTime m.relayed.stderr m.late.stderr⟩ }

def carryOut {α : Type} (plan : Plan α) (s : Site) : α × Site :=
  let (value, m) := s.machine.carryOut plan
  (value, s.goOn m)

end Site

namespace Invocation

def loopTarget : String := "buggywhip_cli::repl"

def failureRecord (e : CommandError) : Log.Record :=
  ⟨.warn, loopTarget, "Command failed", [("error", e.message)]⟩

/-- The text of the filter: the value of `RUST_LOG`, or else the level of the settings for all
parts. -/
def filterText (inv : Invocation) (level : String) : String :=
  (inv.environment.text? "RUST_LOG").getD (Log.defaultFilter level)

/-- How records are written. There are colours unless `NO_COLOR` says otherwise. -/
def style (inv : Invocation) (json : Bool) : Log.Style :=
  if json then .json
  else if (inv.environment.octets? "NO_COLOR").any (!·.isEmpty) then .plain
  else .coloured

def logged (inv : Invocation) (level : String) (json : Bool) (e : CommandError) : String :=
  let record := failureRecord e
  let filter := Log.Filter.ofText (inv.filterText level)
  if filter.logs record.target record.fieldNames record.level then
    record.text (inv.style json) inv.time
  else ""

/-- The directory of temporary files: the value of `TMPDIR`, or else the usual one. -/
def temporaryDirectory (env : Environment) : Path :=
  match env.octets? "TMPDIR" with
  | some octets => ⟨octets⟩
  | none => "/tmp"

def override (settings : Settings) (options : Options) : Settings :=
  let shell := settings.shell
  { settings with
    shell :=
      { shell with
        executable := options.shell.getD shell.executable
        terminateTimeout := options.terminateTimeout.orElse fun _ ↦ shell.terminateTimeout }
    list := ⟨options.listCount.getD settings.list.count⟩
    logLevel := options.logLevel.getD settings.logLevel }

def answer (logged : CommandError → String) (d : Debugger) (s : Site) (reading : Reading) :
    Progress × Debugger × Site :=
  let ((progress, d, output), s) :=
    s.carryOut (respond logged d ⟨.unlimited, .unlimited⟩ reading)
  (progress, d,
    { s with
      stdout := s.stdout ++ output.out.taken
      stderr := s.stderr ++ output.diag.taken })

/-- Answers readings until the loop ends. After the last reading the lines have ended. -/
def answerAll (logged : CommandError → String) (d : Debugger) (s : Site) :
    List Reading → (Except Failure Unit × Debugger) × Site
  | [] =>
    let (progress, d, s) := answer logged d s .ended
    ((progress.result, d), s)
  | reading :: rest =>
    match answer logged d s reading with
    | (.goesOn, d, s) => answerAll logged d s rest
    | (.ended result, d, s) => ((result, d), s)

/-- Starts the first shell. If it does not start, nobody waits until all that it printed is printed
here. -/
def startFirst (d : Debugger) (source : Option Path) (s : Site) :
    (Except CommandError Unit × Debugger) × Site :=
  match s.machine.carryOut (d.start source) with
  | ((.ok _, d), m) => ((.ok (), d), s.goOn m)
  | ((.error e, d), m) => ((.error e, d), s.hurryOn m)

def failureLine (reason : String) : String := s!"Error: {reason}\n"

/-- Runs the debugger with its settings; the exit code and what was printed. -/
def debug (inv : Invocation) (settings : Settings) (options : Options) (s : Site) : Nat × Site :=
  let s := (Log.Filter.complaints (inv.filterText settings.logLevel)).foldl Site.complain s
  let session := SessionSettings.ofShell settings.shell (temporaryDirectory inv.environment)
  let driver := Driver.ofSettings session s.machine.processId ⟨true, true⟩
  let d := Debugger.ofDriver driver settings.list.count
  let logged := inv.logged settings.logLevel options.logJson
  let course : StateM Site Departure :=
    courseOf (modifyGet (startFirst d options.source))
      (fun e ↦ modifyGet fun s ↦ (.ok (), s.complain (reportOf e)))
      (fun d ↦ modifyGet fun s ↦ answerAll logged d s (readings inv.input))
      (fun d ↦ modifyGet fun s ↦ ((), (s.carryOut d.shutdown).2))
  let (departure, s) := course.run s
  (departure.code, (departure.failure?.map failureLine).elim s s.complain)

/-- The source that a line of the input loads, if it does. -/
def loadedBy : Reading → Option Path
  | .line text =>
    match Command.parse text with
    | some (.load path) => path
    | _ => none
  | _ => none

/-- The files and directories that a run may look at: the settings files, the directory of
temporary files, the source of the command line and those that lines of the input load. -/
def paths (inv : Invocation) : List Path :=
  let given := match Options.ofArguments inv.environment inv.arguments with
    | .ok options => options.source
    | .error _ => none
  Settings.layers inv.environment inv.account (some inv.directory) ++
    temporaryDirectory inv.environment :: given.toList ++ (readings inv.input).filterMap loadedBy

def run (inv : Invocation) (m : Machine) : Nat × Site :=
  let s := Site.ofMachine m
  match Options.ofArguments inv.environment inv.arguments with
  | .error .help => (0, s.print (Utf8.encode (CommandLine.help inv.environment)))
  | .error .version => (0, s.print (Utf8.encode CommandLine.version))
  | .error (.refused e) => (2, s.complain e.message)
  | .ok options =>
    match Settings.load m.files inv.environment inv.account (some inv.directory) with
    | .error e => (1, s.complain (failureLine e.message))
    | .ok settings => inv.debug (override settings options) options s

end Invocation
end ShellDebugger.Console
