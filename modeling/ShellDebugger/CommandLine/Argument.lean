import ShellDebugger.Text.Utf8

/-!
# Arguments of the command line

What the debugger takes on its command line: a source, options, and requests for information. Most
options may be given in the environment as well.
-/

namespace ShellDebugger

inductive Argument where
  | source
  | shell
  | listCount
  | terminateTimeout
  | logLevel
  | logJson
  | help
  | version
  deriving DecidableEq, Repr

namespace Argument

def all : List Argument :=
  [source, shell, listCount, terminateTimeout, logLevel, logJson, help, version]

def optionName? : Argument → Option String
  | source => none
  | shell => some "shell"
  | listCount => some "list-count"
  | terminateTimeout => some "terminate-timeout"
  | logLevel => some "log-level"
  | logJson => some "log-json"
  | help => some "help"
  | version => some "version"

def letter? : Argument → Option Char
  | help => some 'h'
  | version => some 'V'
  | _ => none

def valueName? : Argument → Option String
  | source => some "SOURCE"
  | shell => some "SHELL"
  | listCount => some "LIST_COUNT"
  | terminateTimeout => some "TERMINATE_TIMEOUT"
  | logLevel => some "LOG_LEVEL"
  | logJson | help | version => none

/-- The environment variable that gives an argument where the command line does not. -/
def environmentName? : Argument → Option String
  | shell => some "BUGGYWHIP_SHELL"
  | listCount => some "BUGGYWHIP_LIST_COUNT"
  | terminateTimeout => some "BUGGYWHIP_TERMINATE_TIMEOUT"
  | logLevel => some "BUGGYWHIP_LOG_LEVEL"
  | logJson => some "BUGGYWHIP_LOG_JSON"
  | source | help | version => none

def description : Argument → String
  | source => "Script to load at startup"
  | shell => "Shell that runs the script (started as \x60<shell> <script-pipe>\x60)"
  | listCount => "Lines printed per \x60list\x60"
  | terminateTimeout =>
    "Kill the shell if it is still busy this many seconds after its script ends on reload or exit"
  | logLevel => "Log level filter (e.g. \"info\", \"debug\", \"warn\")"
  | logJson => "Output logs as JSON"
  | help => "Print help"
  | version => "Print version"

/-- Whether an argument sets something, and does not ask for information. -/
def isSetting : Argument → Bool
  | help | version => false
  | _ => true

/-- An argument with its value in words, as it is shown in a list of arguments. -/
def bare (a : Argument) : String :=
  match a.optionName?, a.valueName? with
  | some name, some value => s!"--{name} <{value}>"
  | some name, none => s!"--{name}"
  | none, some value => value
  | none, none => ""

def optionText (a : Argument) : String :=
  "--" ++ a.optionName?.getD ""

def display (a : Argument) : String :=
  if a.optionName?.isSome then a.bare else s!"[{a.bare}]"

def ofOptionName? (name : String) : Option Argument :=
  all.find? (·.optionName? == some name)

def ofLetter? (letter : Char) : Option Argument :=
  all.find? (·.letter? == some letter)

end Argument
end ShellDebugger
