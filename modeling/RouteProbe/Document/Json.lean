import RouteProbe.Document.Value
import RouteProbe.Text.Octets

/-! # Values as JSON

The reader is strict: no byte order mark, no comments, no trailing commas, nothing behind the value.
The writer leaves out all blanks and escapes only what has to be escaped. Both work through the
document from left to right; the reader is given more steps than any document of that size takes.
-/

namespace RouteProbe.Document.Json

/-! ## Octets with a meaning -/

@[match_pattern] abbrev quote : UInt8 := 0x22
@[match_pattern] abbrev comma : UInt8 := 0x2C
@[match_pattern] abbrev minus : UInt8 := 0x2D
@[match_pattern] abbrev point : UInt8 := 0x2E
@[match_pattern] abbrev zero : UInt8 := 0x30
@[match_pattern] abbrev colon : UInt8 := 0x3A
@[match_pattern] abbrev openBracket : UInt8 := 0x5B
@[match_pattern] abbrev backslash : UInt8 := 0x5C
@[match_pattern] abbrev closeBracket : UInt8 := 0x5D
@[match_pattern] abbrev letterU : UInt8 := 0x75
@[match_pattern] abbrev openBrace : UInt8 := 0x7B
@[match_pattern] abbrev closeBrace : UInt8 := 0x7D

def isDigit (octet : UInt8) : Bool := 0x30 ≤ octet && octet ≤ 0x39

/-- Whether an octet may stand between the parts of a document. -/
def isGap (octet : UInt8) : Bool := octet == 0x20 || octet == 0x09 || octet == 0x0A || octet == 0x0D

/-- What follows the gap at the start. -/
def skipGap (input : List UInt8) : List UInt8 := input.dropWhile isGap

/-- What follows a given word at the start. -/
def dropWord? : List UInt8 → List UInt8 → Option (List UInt8)
  | [], input => some input
  | _ :: _, [] => none
  | w :: word, octet :: input => if w = octet then dropWord? word input else none

/-! ## Texts -/

def escaped? (letter : UInt8) : Option UInt8 :=
  match Char.ofNat letter.toNat with
  | '"' => some 0x22
  | '\\' => some 0x5C
  | '/' => some 0x2F
  | 'b' => some 0x08
  | 'f' => some 0x0C
  | 'n' => some 0x0A
  | 'r' => some 0x0D
  | 't' => some 0x09
  | _ => none

def hexDigit? (octet : UInt8) : Option Nat :=
  let code := octet.toNat
  if 0x30 ≤ code ∧ code ≤ 0x39 then some (code - 0x30)
  else if 0x41 ≤ code ∧ code ≤ 0x46 then some (code - 0x41 + 10)
  else if 0x61 ≤ code ∧ code ≤ 0x66 then some (code - 0x61 + 10)
  else none

def hexUnit? (a b c d : UInt8) : Option Nat := do
  return (((← hexDigit? a) * 16 + (← hexDigit? b)) * 16 + (← hexDigit? c)) * 16 + (← hexDigit? d)

/-- One part of a text between quotes. -/
inductive Part
  | octet (value : UInt8)
  /-- A UTF-16 code unit, written as an escape. -/
  | unit (value : Nat)

def readParts : List UInt8 → Option (List Part × List UInt8)
  | quote :: rest => some ([], rest)
  | backslash :: letterU :: a :: b :: c :: d :: rest => do
    let value ← hexUnit? a b c d
    let (parts, rest) ← readParts rest
    return (.unit value :: parts, rest)
  | backslash :: letter :: rest => do
    let value ← escaped? letter
    let (parts, rest) ← readParts rest
    return (.octet value :: parts, rest)
  | octet :: rest =>
    if octet < 0x20 || octet == backslash then none
    else do
      let (parts, rest) ← readParts rest
      return (.octet octet :: parts, rest)
  | [] => none

/-- The octets that the parts of a text stand for; two units that form a surrogate pair stand for
one character, and a surrogate on its own for none. -/
def partOctets? : List Part → Option (List UInt8)
  | [] => some []
  | .octet value :: rest => do return value :: (← partOctets? rest)
  | .unit high :: .unit low :: rest =>
    if 0xD800 ≤ high ∧ high < 0xDC00 ∧ 0xDC00 ≤ low ∧ low < 0xE000 then do
      let code := 0x10000 + (high - 0xD800) * 0x400 + (low - 0xDC00)
      return String.utf8EncodeChar (Char.ofNat code) ++ (← partOctets? rest)
    else if 0xD800 ≤ high ∧ high < 0xE000 then none
    else do return String.utf8EncodeChar (Char.ofNat high) ++ (← partOctets? (.unit low :: rest))
  | .unit value :: rest =>
    if 0xD800 ≤ value ∧ value < 0xE000 then none
    else do return String.utf8EncodeChar (Char.ofNat value) ++ (← partOctets? rest)

def partText? (parts : List Part) : Option String := do Text.ofOctets? (← partOctets? parts)

/-! ## Numbers -/

def readDigits? (input : List UInt8) : Option (List UInt8 × List UInt8) :=
  match input.takeWhile isDigit with
  | [] => none
  | digits => some (digits, input.dropWhile isDigit)

/-- Splits the digits before the point off: a zero alone, or digits that begin with another. -/
def readWhole? : List UInt8 → Option (List UInt8 × List UInt8)
  | zero :: rest => some ([zero], rest)
  | input => readDigits? input

def readFraction? : List UInt8 → Option (List UInt8 × List UInt8)
  | point :: rest => do
    let (digits, rest) ← readDigits? rest
    return (point :: digits, rest)
  | input => some ([], input)

def readExponent? : List UInt8 → Option (List UInt8 × List UInt8)
  | letter :: rest =>
    if letter == 0x65 || letter == 0x45 then
      match rest with
      | sign :: more =>
        if sign == 0x2B || sign == minus then do
          let (digits, rest) ← readDigits? more
          return (letter :: sign :: digits, rest)
        else do
          let (digits, rest) ← readDigits? rest
          return (letter :: digits, rest)
      | [] => none
    else some ([], letter :: rest)
  | [] => some ([], [])

def digitsValue (digits : List UInt8) : Nat :=
  digits.foldl (fun value digit => value * 10 + (digit.toNat - 0x30)) 0

def asciiText (octets : List UInt8) : String :=
  String.ofList (octets.map fun octet => Char.ofNat octet.toNat)

def readNumber? (input : List UInt8) : Option (Value × List UInt8) := do
  let (sign, rest) := match input with
    | minus :: rest => ([minus], rest)
    | input => ([], input)
  let (whole, rest) ← readWhole? rest
  let (fraction, rest) ← readFraction? rest
  let (exponent, rest) ← readExponent? rest
  let value := match sign ++ fraction ++ exponent with
    | [] => Value.natural (digitsValue whole)
    | _ => Value.otherNumber (asciiText (sign ++ whole ++ fraction ++ exponent))
  return (value, rest)

/-! ## Values -/

/-- The record of named values, unless a name is garbled. -/
def recordOf (fields : List (Option String × Value)) : Value :=
  match fields.mapM fun field => field.1.map (·, field.2) with
  | some fields => .record fields
  | none => .garbled

mutual

/-- Reads a value, in at most `steps` nested or chained steps. -/
def readValue (steps : Nat) (input : List UInt8) : Option (Value × List UInt8) :=
  match steps with
  | 0 => none
  | steps + 1 =>
    match skipGap input with
    | quote :: rest => do
      let (parts, rest) ← readParts rest
      return (match partText? parts with | some text => .text text | none => .garbled, rest)
    | openBracket :: rest =>
      match skipGap rest with
      | closeBracket :: rest => some (.list [], rest)
      | rest => do
        let (items, rest) ← readItems steps rest
        return (.list items, rest)
    | openBrace :: rest =>
      match skipGap rest with
      | closeBrace :: rest => some (.record [], rest)
      | rest => do
        let (fields, rest) ← readFields steps rest
        return (recordOf fields, rest)
    | input =>
      match dropWord? (Text.octets "null") input with
      | some rest => some (.null, rest)
      | none =>
        match dropWord? (Text.octets "true") input with
        | some rest => some (.flag true, rest)
        | none =>
          match dropWord? (Text.octets "false") input with
          | some rest => some (.flag false, rest)
          | none => readNumber? input

def readItems (steps : Nat) (input : List UInt8) : Option (List Value × List UInt8) :=
  match steps with
  | 0 => none
  | steps + 1 => do
    let (item, rest) ← readValue steps input
    match skipGap rest with
    | comma :: rest => do
      let (items, rest) ← readItems steps rest
      return (item :: items, rest)
    | closeBracket :: rest => return ([item], rest)
    | _ => none

def readFields (steps : Nat) (input : List UInt8) :
    Option (List (Option String × Value) × List UInt8) :=
  match steps with
  | 0 => none
  | steps + 1 =>
    match skipGap input with
    | quote :: rest => do
      let (parts, rest) ← readParts rest
      match skipGap rest with
      | colon :: rest => do
        let (value, rest) ← readValue steps rest
        match skipGap rest with
        | comma :: rest => do
          let (fields, rest) ← readFields steps rest
          return ((partText? parts, value) :: fields, rest)
        | closeBrace :: rest => return ([(partText? parts, value)], rest)
        | _ => none
      | _ => none
    | _ => none

end

def read? (document : List UInt8) : Option Value := do
  let (value, rest) ← readValue (2 * document.length + 2) document
  if skipGap rest = [] then some value else none

/-! ## Writing -/

def writeChar (c : Char) : List Char :=
  match c with
  | '"' => ['\\', '"']
  | '\\' => ['\\', '\\']
  | '\n' => ['\\', 'n']
  | '\r' => ['\\', 'r']
  | '\t' => ['\\', 't']
  | '\x08' => ['\\', 'b']
  | '\x0c' => ['\\', 'f']
  | c =>
    if c.toNat < 0x20 then
      ['\\', 'u', '0', '0', (c.toNat / 16).digitChar, (c.toNat % 16).digitChar]
    else [c]

def writeText (text : String) : List Char := '"' :: text.toList.flatMap writeChar ++ ['"']

mutual

/-- A value without any blanks. Of a garbled value nothing can be written but null. -/
def write : Value → List Char
  | .null | .garbled => ['n', 'u', 'l', 'l']
  | .flag true => ['t', 'r', 'u', 'e']
  | .flag false => ['f', 'a', 'l', 's', 'e']
  | .natural value => Nat.toDigits 10 value
  | .otherNumber literal => literal.toList
  | .text value => writeText value
  | .list items => '[' :: writeItems items ++ [']']
  | .record fields => '{' :: writeFields fields ++ ['}']

def writeItems : List Value → List Char
  | [] => []
  | [item] => write item
  | item :: next :: rest => write item ++ ',' :: writeItems (next :: rest)

def writeFields : List (String × Value) → List Char
  | [] => []
  | [(name, value)] => writeText name ++ ':' :: write value
  | (name, value) :: next :: rest =>
    writeText name ++ ':' :: write value ++ ',' :: writeFields (next :: rest)

end

def render (value : Value) : String := String.ofList (write value)

end RouteProbe.Document.Json
