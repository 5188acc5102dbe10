/-!
# UTF-8

Octet strings and the characters they stand for. Decoding is a machine that reads one octet at a
time: `between` characters, or `inside` one whose remaining octets are bounded. A sequence that
cannot be completed is one *broken* unit, which ends right before the octet that breaks it, so
broken text never swallows the ASCII character after it.

* `encode` writes characters as octets.
* `decodeUnits` reads octets as characters (`some c`) and broken sequences (`none`).
* `decodeLossy` puts U+FFFD in place of each broken sequence; `decode?` refuses broken text.
-/

namespace ShellDebugger

/-- A string of octets, as files, pipes and processes hold it. -/
abbrev Bytes := List UInt8

namespace Utf8

def encodeChars (text : List Char) : Bytes :=
  text.flatMap String.utf8EncodeChar

def encode (text : String) : Bytes :=
  encodeChars text.toList

/-- Where a reader stands in an octet string: before a character, or inside one that has the value
`value` so far, whose next octet must lie between `lowest` and `highest`, and that has `more`
octets after that one. -/
inductive State where
  | between
  | inside (value : Nat) (lowest highest : UInt8) (more : Nat)
  deriving DecidableEq, Repr

/-- Reads an octet that begins a character. What completes at once comes first, `none` for an octet
that begins nothing. -/
def lead (octet : UInt8) : List (Option Char) × State :=
  if octet < 0x80 then ([some (Char.ofNat octet.toNat)], .between)
  else if octet < 0xC2 then ([none], .between)
  else if octet < 0xE0 then ([], .inside (octet.toNat - 0xC0) 0x80 0xBF 0)
  else if octet < 0xF0 then
    let lowest := if octet = 0xE0 then 0xA0 else 0x80
    let highest := if octet = 0xED then 0x9F else 0xBF
    ([], .inside (octet.toNat - 0xE0) lowest highest 1)
  else if octet < 0xF5 then
    let lowest := if octet = 0xF0 then 0x90 else 0x80
    let highest := if octet = 0xF4 then 0x8F else 0xBF
    ([], .inside (octet.toNat - 0xF0) lowest highest 2)
  else ([none], .between)

/-- Reads one octet: the units it completes, and where it leaves the reader. -/
def State.next (state : State) (octet : UInt8) : List (Option Char) × State :=
  match state with
  | .between => lead octet
  | .inside value lowest highest more =>
    if lowest ≤ octet ∧ octet ≤ highest then
      let value := value * 64 + (octet.toNat - 0x80)
      match more with
      | 0 => ([some (Char.ofNat value)], .between)
      | more + 1 => ([], .inside value 0x80 0xBF more)
    else
      let (units, state) := lead octet
      (none :: units, state)

/-- What the end of the octets completes: a character cut short is broken. -/
def State.finish : State → List (Option Char)
  | .between => []
  | .inside .. => [none]

/-- Decodes octets from a state on, after the units read before, which come last to first. -/
def decodeAfter (read : List (Option Char)) (state : State) : Bytes → List (Option Char)
  | [] => read.reverse ++ state.finish
  | octet :: rest =>
    let (units, state) := state.next octet
    decodeAfter (units.reverse ++ read) state rest

/-- The characters of an octet string in order, and `none` for each maximal sequence of octets that
begins like a character and is none. -/
def decodeUnits (octets : Bytes) : List (Option Char) :=
  decodeAfter [] .between octets

def replacement : Char := '\uFFFD'

/-- Decodes any octets, with U+FFFD for each broken sequence. -/
def decodeLossyChars (octets : Bytes) : List Char :=
  (decodeUnits octets).map (·.getD replacement)

def decodeLossy (octets : Bytes) : String :=
  String.ofList (decodeLossyChars octets)

/-- Decodes octets that are well formed, and nothing else. -/
def decode? (octets : Bytes) : Option String :=
  let units := decodeUnits octets
  if units.all (·.isSome) then some (String.ofList (units.filterMap id)) else none

end Utf8
end ShellDebugger
