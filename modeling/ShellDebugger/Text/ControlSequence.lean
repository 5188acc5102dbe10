import ShellDebugger.Text.Utf8

/-!
# Control sequences

What is printed where there is no terminal has no control sequences: `strip` removes the sequences
that a terminal obeys, such as `ESC [ 31 m`, with all that belongs to them, and the control
characters that are no white space. A sequence that is not ended swallows what follows it, up to
the next sequence. `emphasized` is for what is to stand out where there is a terminal.
-/

namespace ShellDebugger.ControlSequence

inductive Mode where
  /-- In no sequence. -/
  | ground
  /-- Behind the escape character. -/
  | escape
  | escapeIntermediate
  /-- Behind `ESC [`. -/
  | control
  | controlParameters
  | controlIntermediate
  | controlIgnored
  /-- Behind `ESC P`. -/
  | device
  | deviceParameters
  | deviceIntermediate
  | deviceIgnored
  | devicePassed
  /-- Behind `ESC ]`. -/
  | system
  /-- In a string that no terminal obeys, behind `ESC X`, `ESC ^` or `ESC _`. -/
  | string
  deriving DecidableEq, Repr

def within (low high octet : UInt8) : Bool := low ≤ octet && octet ≤ high

def isBlank (octet : UInt8) : Bool :=
  octet == 0x20 || octet == 0x09 || octet == 0x0A || octet == 0x0C || octet == 0x0D

/-- Whether an octet is printed outside of sequences when it begins a character: one of ASCII that
is no control character or is white space, or any other. -/
def isPrinted (octet : UInt8) : Bool :=
  within 0x20 0x7E octet || isBlank octet || within 0xC2 0xF4 octet

def afterEscape (octet : UInt8) : Mode :=
  if octet == 0x5B then .control
  else if octet == 0x5D then .system
  else if octet == 0x50 then .device
  else if octet == 0x58 || octet == 0x5E || octet == 0x5F then .string
  else if within 0x20 0x2F octet then .escapeIntermediate
  else if within 0x30 0x7E octet then .ground
  else .escape

/-- Where an octet of a sequence that a parameter may stand in leads: `parameters` if it is one,
`intermediate` if it comes behind them, `finished` if it ends them, and `reserved` if it is a mark
of private use. -/
def afterParameter (here parameters intermediate finished reserved : Mode) (octet : UInt8) :
    Mode :=
  if within 0x20 0x2F octet then intermediate
  else if within 0x30 0x3B octet then parameters
  else if within 0x3C 0x3F octet then reserved
  else if within 0x40 0x7E octet then finished
  else here

def Mode.next (mode : Mode) (octet : UInt8) : Mode :=
  if octet == 0x18 || octet == 0x1A then .ground
  else if octet == 0x1B then .escape
  else
    match mode with
    | .ground => .ground
    | .escape => afterEscape octet
    | .escapeIntermediate => if within 0x30 0x7E octet then .ground else .escapeIntermediate
    | .control =>
      afterParameter .control .controlParameters .controlIntermediate .ground .controlParameters
        octet
    | .controlParameters =>
      afterParameter .controlParameters .controlParameters .controlIntermediate .ground
        .controlIgnored octet
    | .controlIntermediate =>
      afterParameter .controlIntermediate .controlIgnored .controlIntermediate .ground
        .controlIgnored octet
    | .controlIgnored => if within 0x40 0x7E octet then .ground else .controlIgnored
    | .device =>
      afterParameter .device .deviceParameters .deviceIntermediate .devicePassed .deviceParameters
        octet
    | .deviceParameters =>
      afterParameter .deviceParameters .deviceParameters .deviceIntermediate .devicePassed
        .deviceIgnored octet
    | .deviceIntermediate =>
      afterParameter .deviceIntermediate .deviceIgnored .deviceIntermediate .devicePassed
        .deviceIgnored octet
    | .deviceIgnored | .devicePassed | .string => if octet == 0x9C then .ground else mode
    | .system => if octet == 0x07 then .ground else .system

/-- Whether white space other than a space is printed from a place. -/
def Mode.showsBlanks : Mode → Bool
  | .ground | .escape | .escapeIntermediate | .control | .controlParameters | .controlIntermediate
  | .controlIgnored => true
  | _ => false

/-- The octets of a text that are printed. `printing` says that the octet before was; white space
inside of a sequence is printed, and so is the text behind it up to a control character, with which
the sequence goes on. -/
def stripFrom (mode : Mode) (printing : Bool) : Bytes → Bytes
  | [] => []
  | octet :: rest =>
    if printing ∧ 0x80 ≤ octet then octet :: stripFrom .ground true rest
    else if (printing ∨ mode = .ground) ∧ isPrinted octet then octet :: stripFrom mode true rest
    else if mode.showsBlanks ∧ isBlank octet ∧ octet ≠ 0x20 then octet :: stripFrom mode true rest
    else stripFrom (mode.next octet) false rest

/-- A text without its control sequences and control characters. -/
def strip (text : String) : String :=
  Utf8.decodeLossy (stripFrom .ground false (Utf8.encode text))

/-- A text behind which the mode of a terminal that its printing has set is left. -/
def emphasized (text : String) : String :=
  "\x1b[1m" ++ text ++ "\x1b[0m"

end ShellDebugger.ControlSequence
