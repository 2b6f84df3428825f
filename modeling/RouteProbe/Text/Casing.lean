import RouteProbe.Text.CaseTable

/-! # Upper and lower case

The full Unicode case mappings of whole texts. A character may become several, and a capital sigma
looks at its neighbours: it takes its final form at the end of a word.
-/

namespace RouteProbe.Text

/-- The code point that a table of runs maps `code` to; unlisted code points stay. -/
def shiftCode (runs : List CaseRun) (code : Nat) : Nat :=
  match runs.find? (·.holds code) with
  | some run => (code + run.shift).toNat
  | none => code

def lowerChar (c : Char) : List Char :=
  if c.toNat < 128 then [c.toLower]
  else if c = 'İ' then ['i', '\u0307']
  else [Char.ofNat (shiftCode lowerRuns c.toNat)]

def upperChar (c : Char) : List Char :=
  if c.toNat < 128 then [c.toUpper]
  else match upperExpansions.find? (·.1 == c.toNat) with
    | some expansion => expansion.2.map Char.ofNat
    | none => [Char.ofNat (shiftCode upperRuns c.toNat)]

/-- Whether the first character that counts for casing is cased. -/
def meetsCased (text : List Char) : Bool :=
  match text.dropWhile fun c => inRanges caseIgnorableRanges c.toNat with
  | [] => false
  | c :: _ => inRanges casedRanges c.toNat

/-- Lowercases `text`, given the characters before it in reverse. -/
def lowerAfter (before : List Char) : List Char → List Char
  | [] => []
  | c :: rest =>
    let lowered :=
      if c = 'Σ' then [if meetsCased before && !meetsCased rest then 'ς' else 'σ'] else lowerChar c
    lowered ++ lowerAfter (c :: before) rest

def lowercase (text : String) : String := String.ofList (lowerAfter [] text.toList)

def uppercase (text : String) : String := String.ofList (text.toList.flatMap upperChar)

def lowercaseAscii (text : String) : String := String.ofList (text.toList.map Char.toLower)

end RouteProbe.Text
