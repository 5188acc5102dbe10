import ShellDebugger.Text.Numeral
import ShellDebugger.Text.Utf8
import ShellDebugger.Text.Words

/-!
# What is logged

A filter is a list of directives, each of which sets the most detailed level that is logged for the
targets that begin with a text, or for all targets, and perhaps only for records that have a field.
For a record the most specific directive counts: the one with the longest target, and of these one
with a field before one without. A directive may also be meant for records inside of a span or with
a value of a field; as there are no spans, it decides nothing.
-/

namespace ShellDebugger.Log

/-- How much is logged, or how important a record is. -/
inductive Level where
  | off | error | warn | info | debug | trace
  deriving DecidableEq, Repr

namespace Level

def all : List Level := [off, error, warn, info, debug, trace]

def rank (level : Level) : Nat :=
  all.idxOf level

def name : Level → String
  | off => "OFF"
  | error => "ERROR"
  | warn => "WARN"
  | info => "INFO"
  | debug => "DEBUG"
  | trace => "TRACE"

/-- The level that a text writes, by its number or by its name in large or small letters. Nothing
at all writes the level of errors. -/
def parse? (text : String) : Option Level :=
  match (Numeral.parse? text).bind (all[·]?) with
  | some level => some level
  | none => if text.isEmpty then some error else all.find? (·.name == text.toUpper)

end Level

structure FieldMatch where
  name : String
  /-- Whether the field is to have a certain value. -/
  hasValue : Bool
  deriving DecidableEq, Repr

/-- The condition that a text writes: a name, or a name, an equals sign and a value. -/
def FieldMatch.ofText (text : String) : FieldMatch :=
  let name := text.toList.takeWhile (· != '=')
  ⟨String.ofList name, name.length < text.length⟩

structure Directive where
  /-- What the targets begin with. -/
  target : Option String
  /-- Whether it is meant for spans of a name. -/
  inSpan : Bool
  field : Option FieldMatch
  level : Level
  deriving DecidableEq, Repr

namespace Directive

inductive Fault where
  | malformed
  | unknownLevel
  deriving DecidableEq, Repr

def Fault.message : Fault → String
  | malformed => "invalid filter directive"
  | unknownLevel =>
    "error parsing level filter: expected one of \"off\", \"error\", \"warn\", \"info\", " ++
      "\"debug\", \"trace\", or a number 0-5"

/-- Whether a directive may begin with a character, if it does not begin with a bracket. -/
def isStart (c : Char) : Bool :=
  c = '-' || c = ':' || c = '_' || isAlphanumeric c

def everything : Directive := ⟨none, false, none, .trace⟩

inductive Part where
  | start
  /-- A level or a target. -/
  | name (start : Nat)
  /-- The name of a span in brackets. -/
  | span (start : Nat)
  /-- A field in the braces of a span. -/
  | field (start : Nat)
  /-- Nothing but a closing bracket may follow. -/
  | fieldsEnd
  /-- Nothing but a level may follow. -/
  | spanEnd
  | level (start : Nat)

def slice (text : Bytes) (start stop : Nat) : String :=
  Utf8.decodeLossy ((text.drop start).take (stop - start))

/-- Sets the level that a text writes; none is every detail. -/
def withLevel (d : Directive) (text : String) : Except Fault Directive :=
  if text.isEmpty then .ok { d with level := .trace }
  else
    match Level.parse? text with
    | some level => .ok { d with level }
    | none => .error .unknownLevel

/-- Reads a directive of which `d` has been read and a part is being read at place `here`. What has
been read is taken out of `text`. -/
def read (text : Bytes) (d : Directive) (part : Part) (here : Nat) :
    List Char → Except Fault Directive
  | [] =>
    match part with
    | .name start =>
      let name := slice text start text.length
      match Level.parse? name with
      | some level => .ok { d with level }
      | none => .ok { d with target := some name }
    | .level start => d.withLevel (slice text start text.length)
    | .spanEnd => .ok d
    | .start | .span _ | .field _ | .fieldsEnd => .error .malformed
  | c :: rest =>
    let next := here + c.utf8Size
    match part, c with
    | .start, '[' => read text d (.span next) next rest
    | .start, c => if isStart c then read text d (.name here) next rest else .error .malformed
    | .name start, '=' =>
      read text { d with target := some (slice text start here) } (.level next) next rest
    | .name start, '[' =>
      read text { d with target := some (slice text start here) } (.span next) next rest
    | .span _, ']' => read text { d with inSpan := true } .spanEnd next rest
    | .span start, '\x7b' =>
      read text { d with inSpan := start < here } (.field next) next rest
    | .field start, '\x7d' =>
      if start = here then .error .malformed
      else
        let field := FieldMatch.ofText (slice text start here)
        read text { d with field := some field } .fieldsEnd next rest
    | .fieldsEnd, ']' => read text d .spanEnd next rest
    | .spanEnd, '=' => read text d (.level next) next rest
    | .fieldsEnd, _ | .spanEnd, _ => .error .malformed
    | part, _ => read text d part next rest

/-- The directive that a text writes: a level, a target, or a target, an equals sign and a level. A
target alone is logged in every detail, and so is one without a level after its sign. A span in
brackets may follow the target, and a field in braces the name of the span. Blanks around the
directive do not count for where its parts are, but the parts are cut out of the whole text. -/
def parse (text : String) : Except Fault Directive :=
  let trimmed := text.toList.dropWhile isWhiteSpace
  let trimmed := (trimmed.reverse.dropWhile isWhiteSpace).reverse
  read (Utf8.encode text) everything .start 0 trimmed

/-- Whether a directive decides about records that are in no span. -/
def isStatic (d : Directive) : Bool :=
  !d.inSpan && !d.field.any (·.hasValue)

/-- Whether a directive is about a record of a target that has some fields. -/
def concerns (d : Directive) (target : String) (fields : List String) : Bool :=
  d.target.all (·.toList.isPrefixOf target.toList) && d.field.all (fields.contains ·.name)

/-- Whether a directive is less specific than another about the same record. Of two with different
fields, the one whose name comes first is. -/
def isLessSpecific (d e : Directive) : Bool :=
  let length (d : Directive) : Nat := (d.target.map (·.utf8ByteSize + 1)).getD 0
  let field (d : Directive) : String := (d.field.map (·.name)).getD ""
  length d < length e ||
    (length d == length e &&
      (d.field.isNone && e.field.isSome || d.field.isSome && e.field.isSome && field d < field e))

end Directive

/-- The directives of a filter, first written first. -/
structure Filter where
  directives : List Directive
  deriving DecidableEq, Repr

namespace Filter

def parts (text : String) : List String :=
  (text.splitOn ",").filter (!·.isEmpty)

/-- The filter that a text writes. What is no directive is left out; if nothing is left, errors are
logged. -/
def ofText (text : String) : Filter :=
  let directives := (parts text).filterMap fun part ↦ (Directive.parse part).toOption
  ⟨if directives.isEmpty then [{ Directive.everything with level := .error }] else directives⟩

/-- What is said about the parts of a filter's text that are no directives, a line each. -/
def complaints (text : String) : List String :=
  (parts text).filterMap fun part ↦
    match Directive.parse part with
    | .ok _ => none
    | .error fault => some s!"ignoring \x60{part}\x60: {fault.message}\n"

/-- The directive that counts for a record of a target that has some fields. Of equally specific
ones the last counts. -/
def directiveFor? (filter : Filter) (target : String) (fields : List String) : Option Directive :=
  (filter.directives.filter fun d ↦ d.isStatic && d.concerns target fields).foldl
    (fun best d ↦ if best.any d.isLessSpecific then best else some d) none

/-- Whether records of a level are logged that have a target and some fields. -/
def logs (filter : Filter) (target : String) (fields : List String) (level : Level) : Bool :=
  (filter.directiveFor? target fields).any fun d ↦ level.rank ≤ d.level.rank

end Filter

def targets : List String :=
  ["buggywhip_core", "buggywhip_driver", "buggywhip_cli", "bgw"]

/-- The filter that sets one level for all parts of the program. -/
def defaultFilter (level : String) : String :=
  ",".intercalate (targets.map fun target ↦ s!"{target}={level}")

end ShellDebugger.Log
