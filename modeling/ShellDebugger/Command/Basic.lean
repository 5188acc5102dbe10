import ShellDebugger.Host.Path
import ShellDebugger.Session.Error
import ShellDebugger.Settings.Error
import ShellDebugger.Source.Navigator
import ShellDebugger.Text.Words

/-!
# Commands

The commands of the debugger and how a line is read as one: its first word names the command and
the other words are the arguments. What a command does may fail, for the reasons of those who do it.
-/

namespace ShellDebugger

inductive Command where
  | help
  | exit
  /-- Load a source. -/
  | load (path : Option Path)
  /-- List a page of the source. -/
  | list (arguments : List String)
  /-- Feed the source to the shell. -/
  | run
  /-- Send one line, made of these words, to the shell. -/
  | send (words : List String)
  /-- A command that is reserved and does nothing yet. -/
  | notImplemented (name : String)
  | unknown (name : String)
  deriving DecidableEq, Repr

namespace Command

/-- The names of the commands, in the order in which help lists them. -/
def names : List String :=
  ["help", "exit", "load", "list", "run", "do", "step", "next", "breakpoint"]

def helpText : String :=
  "List of classes of commands:\n\n" ++
  "help -- Print list of commands\n" ++
  "exit -- Exit buggywhip\n" ++
  "load -- Load source\n" ++
  "list -- List source from specified line or keyword\n" ++
  "run -- Start debugged script\n" ++
  "do -- Send one command line to the shell\n" ++
  "step -- Step program line by line\n" ++
  "next -- Step program until it reaches a breakpoint\n" ++
  "breakpoint -- Manage breakpoints\n"

def ofName (name : String) (arguments : List String) : Command :=
  match name with
  | "help" => .help
  | "exit" | "quit" => .exit
  | "load" => .load (arguments.head?.map Path.ofString)
  | "list" => .list arguments
  | "run" => .run
  | "do" => .send arguments
  | "step" | "next" | "breakpoint" => .notImplemented name
  | _ => .unknown name

/-- The command of a line, `none` for a blank one. -/
def parse (line : String) : Option Command :=
  match fields line with
  | [] => none
  | name :: arguments => some (ofName name arguments)

end Command

inductive CommandError where
  /-- A load without a file. -/
  | noFile
  /-- The command is reserved and does nothing yet. -/
  | notImplemented (name : String)
  /-- There is no such command. -/
  | unknown (name : String)
  | settings (cause : SettingsError)
  | source (cause : SourceError)
  | session (cause : SessionError)
  /-- What the command prints could not be written. -/
  | io (cause : IoError)
  deriving DecidableEq, Repr

def CommandError.message : CommandError → String
  | .noFile => "no files specified"
  | .notImplemented name => s!"command not implemented: {name}"
  | .unknown name => s!"unknown command: {name}"
  | .settings cause => cause.message
  | .source cause => cause.message
  | .session cause => cause.message
  | .io cause => cause.message

end ShellDebugger
