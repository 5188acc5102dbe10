import ShellDebugger.CommandLine.Argument
import ShellDebugger.Host.Path
import ShellDebugger.Text.ControlSequence
import ShellDebugger.Text.Numeral

/-!
# Usage

The lines that say how the debugger is called, and the errors of those who call it otherwise.
-/

namespace ShellDebugger

def programName : String := "bgw"

def programVersion : String := "0.1.0-alpha.1"

structure Usage where
  /-- Arguments that are shown one by one. -/
  shown : List Argument
  /-- Whether the settings are shown as one list of alternatives. -/
  alternatives : Bool
  deriving DecidableEq, Repr

namespace Usage

def general : Usage := ⟨[], false⟩

def settings : String :=
  "<" ++ "|".intercalate ((Argument.all.filter (·.isSetting)).map (·.bare)) ++ ">"

/-- A usage line. Options come in front of the source, which is optional unless it is shown. -/
def line (usage : Usage) : String :=
  let options := usage.shown.filter (·.optionName?.isSome)
  let words :=
    if usage.alternatives then (options.filter (!·.isSetting)).map (·.bare) ++ [settings]
    else if usage.shown.isEmpty then ["[OPTIONS]", Argument.source.display]
    else
      options.map (·.bare) ++
        [if usage.shown.contains .source then s!"<{Argument.source.bare}>"
          else Argument.source.display]
  " ".intercalate ("Usage:" :: programName :: words)

end Usage

namespace CommandLine

/-- The first line of an option in the help. Its names are to stand out. -/
def optionLine (a : Argument) : String :=
  let name := ControlSequence.emphasized a.optionText
  let value := (a.valueName?.map fun value ↦ s!" <{value}>").getD ""
  match a.letter? with
  | some letter => "  " ++ ControlSequence.emphasized s!"-{letter}" ++ s!", {name}{value}"
  | none => s!"      {name}{value}"

def indentation : String := "          "

/-- What the environment gives for an option, in brackets. -/
def environmentNote (env : Environment) (a : Argument) : String :=
  match a.environmentName? with
  | some name => s!" [env: {name}={Utf8.decodeLossy ((env.octets? name).getD [])}]"
  | none => ""

/-- The description of an option in the help. All its lines are indented. -/
def optionDescription (env : Environment) (a : Argument) : String :=
  let text := (a.description ++ environmentNote env a).toList
  indentation ++ String.ofList (text.flatMap fun c ↦
    if c = '\n' then '\n' :: indentation.toList else [c])

def help (env : Environment) : String :=
  let options := Argument.all.filter (·.optionName?.isSome)
  ControlSequence.strip <|
    "buggywhip - a debugger for shell scripts\n\n" ++ Usage.general.line ++
    s!"\n\nArguments:\n  {Argument.source.display}  {Argument.source.description}\n\nOptions:\n" ++
    String.join (options.map fun a ↦ s!"{optionLine a}\n{optionDescription env a}\n")

def version : String := s!"{programName} {programVersion}\n"

end CommandLine

inductive CommandLineError where
  /-- An argument that nothing takes. It may be like an option, or be meant as a value. -/
  | unexpected (argument : String) (similar : Option Argument) (mayBeValue : Bool) (usage : Usage)
  /-- A value for an option that has none. -/
  | unexpectedValue (argument : Argument) (value : String) (usage : Usage)
  /-- An argument that is given twice. -/
  | repeated (argument : Argument)
  /-- An argument without its value. -/
  | missingValue (argument : Argument)
  /-- A value that is no number. -/
  | invalidNumber (argument : Argument) (value : String) (reason : Numeral.Failure)
  /-- A value that is no truth value, and the truth value that it is like. -/
  | invalidChoice (argument : Argument) (value : String) (similar : Option String)
  /-- A value that is not text where text is needed. -/
  | invalidText
  deriving DecidableEq, Repr

namespace CommandLineError

def choices : List String := ["true", "false"]

def choiceLine : String :=
  "\n  [possible values: " ++ ", ".intercalate choices ++ "]"

/-- What was given, between quotation marks. It is to stand out. -/
def quoted (text : String) : String :=
  "'" ++ ControlSequence.emphasized text ++ "'"

def fault : CommandLineError → String
  | unexpected argument .. => s!"unexpected argument {quoted argument} found"
  | unexpectedValue argument value _ =>
    s!"unexpected value {quoted value} for '{argument.display}' found; no more were expected"
  | repeated argument => s!"the argument '{argument.display}' cannot be used multiple times"
  | missingValue argument =>
    s!"a value is required for '{argument.display}' but none was supplied" ++
      if argument.valueName?.isNone then choiceLine else ""
  | invalidNumber argument value reason =>
    s!"invalid value {quoted value} for '{argument.display}': {reason.message}"
  | invalidChoice argument value _ =>
    s!"invalid value {quoted value} for '{argument.display}'{choiceLine}"
  | invalidText => "invalid UTF-8 was detected in one or more arguments"

def tip? : CommandLineError → Option String
  | unexpected _ (some similar) _ _ => some s!"a similar argument exists: '{similar.optionText}'"
  | unexpected argument none true _ =>
    some (s!"to pass {quoted argument} as a value, use " ++ quoted ("-- " ++ argument))
  | invalidChoice _ _ (some similar) => some s!"a similar value exists: '{similar}'"
  | _ => none

/-- How the debugger is called, where that may help. -/
def usage? : CommandLineError → Option Usage
  | unexpected _ _ _ usage | unexpectedValue _ _ usage => some usage
  | repeated _ | invalidText => some .general
  | missingValue _ | invalidNumber .. | invalidChoice .. => none

def message (e : CommandLineError) : String :=
  let part (text : Option String) : String := (text.map ("\n\n" ++ ·)).getD ""
  ControlSequence.strip <|
    s!"error: {e.fault}" ++ part (e.tip?.map ("  tip: " ++ ·)) ++ part (e.usage?.map (·.line)) ++
    "\n\nFor more information, try '--help'.\n"

end CommandLineError
end ShellDebugger
