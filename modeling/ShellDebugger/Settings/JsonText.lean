import ShellDebugger.Settings.Json

/-!
# JSON texts

Reads a JSON text as a value. Arrays and objects nest up to a limit; of two members with one key
the last counts; only white space may follow the value.
-/

namespace ShellDebugger.JsonText

/-- The most arrays and objects that may be open at a time. -/
def depthLimit : Nat := 127

def skip (text : List Char) : List Char :=
  text.dropWhile fun c ↦ c = ' ' ∨ c = '\n' ∨ c = '\t' ∨ c = '\r'

def hexDigit? (c : Char) : Option Nat :=
  if '0' ≤ c ∧ c ≤ '9' then some (c.toNat - '0'.toNat)
  else if 'a' ≤ c ∧ c ≤ 'f' then some (c.toNat - 'a'.toNat + 10)
  else if 'A' ≤ c ∧ c ≤ 'F' then some (c.toNat - 'A'.toNat + 10)
  else none

def codeUnit? : List Char → Option (Nat × List Char)
  | a :: b :: c :: d :: rest => do
    let n := (((← hexDigit? a) * 16 + (← hexDigit? b)) * 16 + (← hexDigit? c)) * 16
    return (n + (← hexDigit? d), rest)
  | _ => none

/-- Reads what follows a backslash and `u`: one unit of 16 bits, or two that make a pair. -/
def unicodeEscape? (text : List Char) : Option (Char × List Char) := do
  let (n, rest) ← codeUnit? text
  if n < 0xD800 ∨ 0xDFFF < n then return (Char.ofNat n, rest)
  if 0xDC00 ≤ n then none
  match rest with
  | '\\' :: 'u' :: rest =>
    let (m, rest) ← codeUnit? rest
    if 0xDC00 ≤ m ∧ m ≤ 0xDFFF then
      return (Char.ofNat (0x10000 + (n - 0xD800) * 0x400 + (m - 0xDC00)), rest)
    else none
  | _ => none

/-- Reads one character of a string, or the mark that ends it. -/
def stringChar? : List Char → Option (Option Char × List Char)
  | [] => none
  | '"' :: rest => some (none, rest)
  | '\\' :: c :: rest =>
    match c with
    | '"' | '\\' | '/' => some (some c, rest)
    | 'b' => some (some '\x08', rest)
    | 'f' => some (some '\x0c', rest)
    | 'n' => some (some '\n', rest)
    | 'r' => some (some '\r', rest)
    | 't' => some (some '\t', rest)
    | 'u' => (unicodeEscape? rest).map fun (c, rest) ↦ (some c, rest)
    | _ => none
  | c :: rest => if c.toNat < 0x20 ∨ c = '\\' then none else some (some c, rest)

/-- Reads a string after its first mark. `read` holds its characters so far, last first. -/
def stringAfter (read : List Char) (text : List Char) : Nat → Option (String × List Char)
  | 0 => none
  | fuel + 1 =>
    match stringChar? text with
    | none => none
    | some (none, rest) => some (String.ofList read.reverse, rest)
    | some (some c, rest) => stringAfter (c :: read) rest fuel

def string (text : List Char) : Option (String × List Char) :=
  stringAfter [] text (text.length + 1)

def word (word : String) (value : Json) (text : List Char) : Option (Json × List Char) :=
  if word.toList.isPrefixOf text then some (value, text.drop word.length) else none

mutual

/-- Reads a value inside which `depth` arrays and objects may be open. -/
def value (depth : Nat) (text : List Char) : Nat → Option (Json × List Char)
  | 0 => none
  | fuel + 1 =>
    match skip text with
    | [] => none
    | 'n' :: rest => word "ull" .null rest
    | 't' :: rest => word "rue" (.boolean true) rest
    | 'f' :: rest => word "alse" (.boolean false) rest
    | '"' :: rest => (string rest).map fun (s, rest) ↦ (.text s, rest)
    | '[' :: rest =>
      match depth with
      | 0 => none
      | depth + 1 =>
        match skip rest with
        | ']' :: rest => some (.array [], rest)
        | rest => (elements depth [] rest fuel).map fun (l, rest) ↦ (.array l, rest)
    | '\x7b' :: rest =>
      match depth with
      | 0 => none
      | depth + 1 =>
        match skip rest with
        | '\x7d' :: rest => some (.object [], rest)
        | rest => (members depth [] rest fuel).map fun (l, rest) ↦ (.object l, rest)
    | text => JsonNumber.read text

/-- Reads the elements of an array behind those in `read`, which come last to first. -/
def elements (depth : Nat) (read : List Json) (text : List Char) :
    Nat → Option (List Json × List Char)
  | 0 => none
  | fuel + 1 =>
    match value depth text fuel with
    | none => none
    | some (v, rest) =>
      match skip rest with
      | ',' :: rest => elements depth (v :: read) rest fuel
      | ']' :: rest => some ((v :: read).reverse, rest)
      | _ => none

def members (depth : Nat) (read : List (String × Json)) (text : List Char) :
    Nat → Option (List (String × Json) × List Char)
  | 0 => none
  | fuel + 1 =>
    match skip text with
    | '"' :: rest =>
      match string rest with
      | none => none
      | some (key, rest) =>
        match skip rest with
        | ':' :: rest =>
          match value depth rest fuel with
          | none => none
          | some (v, rest) =>
            match skip rest with
            | ',' :: rest => members depth (Json.put key v read) rest fuel
            | '\x7d' :: rest => some (Json.put key v read, rest)
            | _ => none
        | _ => none
    | _ => none

end

/-- Reads a JSON text. Every step of the reader but one for each value takes a character, so twice
the length of the text bounds them. -/
def parse (text : String) : Option Json :=
  let chars := text.toList
  match value depthLimit chars (2 * chars.length + 2) with
  | some (v, rest) => if skip rest = [] then some v else none
  | none => none

end ShellDebugger.JsonText
