import RouteProbe.Document.Value

/-! # Values as TOML

A document is a row of statements, one to a line: headers that open a table, and pairs of a key
and a value, put into the table opened last. Tables are built up as they are met, and a table may be
opened by a header only once. The notation also has fractional numbers, dates and times; no setting
takes one, so a document that holds one is refused here.
-/

namespace RouteProbe.Document.Toml

/-! ## Tables under construction -/

/-- How a table came to be. -/
inductive Origin
  /-- By a header of its own. -/
  | header
  /-- On the way to a table with a longer header. -/
  | above
  /-- On the way to a dotted key. -/
  | dotted
  deriving DecidableEq

/-- What is stored under one key. -/
inductive Node
  | value (value : Value)
  | table (origin : Origin) (entries : List (String × Node))
  | tables (items : List (List (String × Node)))

/-- Named nodes in the order of their first mention. -/
abbrev Table := List (String × Node)

/-- Changes the node under a key, or adds one; `none` stands for a clash. -/
def upsert (key : String) (change : Option Node → Option Node) : Table → Option Table
  | [] => do return [(key, ← change none)]
  | (other, node) :: rest =>
    if other = key then do return (other, ← change (some node)) :: rest
    else do return (other, node) :: (← upsert key change rest)

/-- Changes the last item of a list that has one. -/
def changeLast (change : Table → Option Table) : List Table → Option (List Table)
  | [] => none
  | [item] => do return [← change item]
  | item :: rest => do return item :: (← changeLast change rest)

/-- Goes down the keys of a header, making tables on the way, and changes the table there. -/
def under : List String → (Table → Option Table) → Table → Option Table
  | [], change, table => change table
  | key :: path, change, table =>
    upsert key (fun
      | none => do return .table .above (← under path change [])
      | some (.table origin entries) => do return .table origin (← under path change entries)
      | some (.tables items) => do return .tables (← changeLast (under path change) items)
      | some (.value _) => none) table

/-- Opens the table of a header. -/
def openTable (key : String) : Table → Option Table :=
  upsert key fun
    | none => some (.table .header [])
    | some (.table .above entries) => some (.table .header entries)
    | some _ => none

def addTable (key : String) : Table → Option Table :=
  upsert key fun
    | none => some (.tables [[]])
    | some (.tables items) => some (.tables (items ++ [[]]))
    | some _ => none

/-- Stores a value under a dotted key. Tables on the way belong to dotted keys alone. -/
def store (value : Value) : List String → Table → Option Table
  | [], _ => none
  | [key], table =>
    upsert key (fun
      | none => some (.value value)
      | some _ => none) table
  | key :: path, table =>
    upsert key (fun
      | none => do return .table .dotted (← store value path [])
      | some (.table .dotted entries) => do return .table .dotted (← store value path entries)
      | some _ => none) table

mutual

def Node.toValue : Node → Value
  | .value value => value
  | .table _ entries => .record (finish entries)
  | .tables items => .list (finishAll items)

/-- The named values of a finished table. -/
def finish : List (String × Node) → List (String × Value)
  | [] => []
  | (key, node) :: rest => (key, node.toValue) :: finish rest

/-- The values of finished tables. -/
def finishAll : List (List (String × Node)) → List Value
  | [] => []
  | table :: rest => .record (finish table) :: finishAll rest

end

/-! ## Characters -/

def isBlank (c : Char) : Bool := c == ' ' || c == '\t'

def skipBlank (input : List Char) : List Char := input.dropWhile isBlank

/-- Whether a comment, or a text on one line, may hold the character as it is. -/
def inText (c : Char) : Bool := c == '\t' || (0x20 ≤ c.toNat && c.toNat != 0x7F)

/-- Whether a key without quotes may hold the character. -/
def isBare (c : Char) : Bool := c.isAlphanum || c == '_' || c == '-'

/-- What follows a comment, if one is next; the end of the line is left in place. -/
def skipComment? : List Char → Option (List Char)
  | '#' :: rest =>
    match rest.dropWhile inText with
    | [] => some []
    | '\n' :: rest => some ('\n' :: rest)
    | _ => none
  | input => some input

def skipLines : List Char → Option (List Char)
  | [] => some []
  | c :: rest => go false (c :: rest)
where
  go (comment : Bool) : List Char → Option (List Char)
    | [] => some []
    | '\n' :: rest => go false rest
    | c :: rest =>
      if comment then (if inText c then go true rest else none)
      else if isBlank c then go false rest
      else if c = '#' then go true rest
      else some (c :: rest)

/-! ## Texts -/

def escaped? : Char → Option Char
  | 'b' => some '\x08'
  | 't' => some '\t'
  | 'n' => some '\n'
  | 'f' => some '\x0c'
  | 'r' => some '\r'
  | '"' => some '"'
  | '\\' => some '\\'
  | _ => none

def hexDigit? (c : Char) : Option Nat :=
  let code := c.toNat
  if 0x30 ≤ code ∧ code ≤ 0x39 then some (code - 0x30)
  else if 0x41 ≤ code ∧ code ≤ 0x46 then some (code - 0x41 + 10)
  else if 0x61 ≤ code ∧ code ≤ 0x66 then some (code - 0x61 + 10)
  else none

def hexChar? (digits : List Char) : Option Char := do
  let code ← digits.foldlM (fun code digit => return code * 16 + (← hexDigit? digit)) 0
  if code < 0xD800 ∨ (0xE000 ≤ code ∧ code < 0x110000) then some (Char.ofNat code) else none

def readBasic : List Char → Option (List Char × List Char)
  | '"' :: rest => some ([], rest)
  | '\\' :: 'u' :: a :: b :: c :: d :: rest => do
    let char ← hexChar? [a, b, c, d]
    let (text, rest) ← readBasic rest
    return (char :: text, rest)
  | '\\' :: 'U' :: a :: b :: c :: d :: e :: f :: g :: h :: rest => do
    let char ← hexChar? [a, b, c, d, e, f, g, h]
    let (text, rest) ← readBasic rest
    return (char :: text, rest)
  | '\\' :: letter :: rest => do
    let char ← escaped? letter
    let (text, rest) ← readBasic rest
    return (char :: text, rest)
  | char :: rest =>
    if inText char && char != '\\' then do
      let (text, rest) ← readBasic rest
      return (char :: text, rest)
    else none
  | [] => none

def readLiteral : List Char → Option (List Char × List Char)
  | '\'' :: rest => some ([], rest)
  | char :: rest =>
    if inText char then do
      let (text, rest) ← readLiteral rest
      return (char :: text, rest)
    else none
  | [] => none

/-- Whether a line ends here, blanks apart. -/
def endsLine (input : List Char) : Bool := (skipBlank input).head? == some '\n'

/-- Reads a text in three double quotes up to the closing ones; up to two more quotes may stand in
front of those. A backslash at the end of a line hides the blanks and line ends behind it. -/
def readLongBasic (hidden : Bool) : List Char → Option (List Char × List Char)
  | '"' :: '"' :: '"' :: '"' :: '"' :: rest => some (['"', '"'], rest)
  | '"' :: '"' :: '"' :: '"' :: rest => some (['"'], rest)
  | '"' :: '"' :: '"' :: rest => some ([], rest)
  | '\\' :: 'u' :: a :: b :: c :: d :: rest => do
    let char ← hexChar? [a, b, c, d]
    let (text, rest) ← readLongBasic false rest
    return (char :: text, rest)
  | '\\' :: 'U' :: a :: b :: c :: d :: e :: f :: g :: h :: rest => do
    let char ← hexChar? [a, b, c, d, e, f, g, h]
    let (text, rest) ← readLongBasic false rest
    return (char :: text, rest)
  | '\\' :: letter :: rest =>
    if endsLine (letter :: rest) then readLongBasic true (letter :: rest)
    else do
      let char ← escaped? letter
      let (text, rest) ← readLongBasic false rest
      return (char :: text, rest)
  | char :: rest =>
    if hidden && (isBlank char || char == '\n') then readLongBasic true rest
    else if (inText char || char == '\n') && char != '\\' then do
      let (text, rest) ← readLongBasic false rest
      return (char :: text, rest)
    else none
  | [] => none

def readLongLiteral : List Char → Option (List Char × List Char)
  | '\'' :: '\'' :: '\'' :: '\'' :: '\'' :: rest => some (['\'', '\''], rest)
  | '\'' :: '\'' :: '\'' :: '\'' :: rest => some (['\''], rest)
  | '\'' :: '\'' :: '\'' :: rest => some ([], rest)
  | char :: rest =>
    if inText char || char == '\n' then do
      let (text, rest) ← readLongLiteral rest
      return (char :: text, rest)
    else none
  | [] => none

/-- A long text without the line end that may follow its opening quotes. -/
def dropLineEnd : List Char → List Char
  | '\n' :: rest => rest
  | input => input

/-! ## Numbers -/

def isDigitIn (base : Nat) (c : Char) : Bool :=
  match hexDigit? c with
  | some digit => digit < base
  | none => false

def readDigits (base : Nat) : List Char → Option (List Char × List Char)
  | c :: '_' :: rest =>
    if isDigitIn base c then do
      let (digits, rest) ← readDigits base rest
      return (c :: digits, rest)
    else none
  | c :: d :: rest =>
    if !isDigitIn base c then none
    else if isDigitIn base d then do
      let (digits, rest) ← readDigits base (d :: rest)
      return (c :: digits, rest)
    else some ([c], d :: rest)
  | [c] => if isDigitIn base c then some ([c], []) else none
  | [] => none

def digitsValue (base : Nat) (digits : List Char) : Nat :=
  digits.foldl (fun value digit => value * base + (hexDigit? digit).getD 0) 0

/-- The distance from zero of the least whole number that 64 bits hold. -/
def wholeBound : Nat := 0x8000000000000000

/-- A whole number that 64 bits hold. -/
def wholeNumber? (negative : Bool) (value : Nat) : Option Value :=
  if negative && value != 0 then
    if value ≤ wholeBound then some (.otherNumber ("-" ++ toString value)) else none
  else if value < wholeBound then some (.natural value) else none

def readDecimal (negative : Bool) (input : List Char) : Option (Value × List Char) := do
  let (digits, rest) ← readDigits 10 input
  if digits.length > 1 && digits.head? == some '0' then none
  else return (← wholeNumber? negative (digitsValue 10 digits), rest)

def readBased (base : Nat) (input : List Char) : Option (Value × List Char) := do
  let (digits, rest) ← readDigits base input
  return (← wholeNumber? false (digitsValue base digits), rest)

def readWhole : List Char → Option (Value × List Char)
  | '+' :: rest => readDecimal false rest
  | '-' :: rest => readDecimal true rest
  | '0' :: 'x' :: rest => readBased 16 rest
  | '0' :: 'o' :: rest => readBased 8 rest
  | '0' :: 'b' :: rest => readBased 2 rest
  | input => readDecimal false input

/-! ## Keys, values and statements -/

def readKeyPart (input : List Char) : Option (String × List Char) :=
  match input with
  | '"' :: rest => do
    let (text, rest) ← readBasic rest
    return (String.ofList text, rest)
  | '\'' :: rest => do
    let (text, rest) ← readLiteral rest
    return (String.ofList text, rest)
  | input =>
    match input.takeWhile isBare with
    | [] => none
    | name => some (String.ofList name, input.dropWhile isBare)

/-- Reads a key of at most `steps` parts with dots between them, and the blanks behind it. -/
def readKey (steps : Nat) (input : List Char) : Option (List String × List Char) :=
  match steps with
  | 0 => none
  | steps + 1 => do
    let (part, rest) ← readKeyPart (skipBlank input)
    match skipBlank rest with
    | '.' :: rest => do
      let (path, rest) ← readKey steps rest
      return (part :: path, rest)
    | rest => return ([part], rest)

mutual

/-- Reads a value, in at most `steps` nested or chained steps. -/
def readValue (steps : Nat) (input : List Char) : Option (Value × List Char) :=
  match steps with
  | 0 => none
  | steps + 1 =>
    match input with
    | '"' :: '"' :: '"' :: rest => do
      let (text, rest) ← readLongBasic false (dropLineEnd rest)
      return (.text (String.ofList text), rest)
    | '"' :: rest => do
      let (text, rest) ← readBasic rest
      return (.text (String.ofList text), rest)
    | '\'' :: '\'' :: '\'' :: rest => do
      let (text, rest) ← readLongLiteral (dropLineEnd rest)
      return (.text (String.ofList text), rest)
    | '\'' :: rest => do
      let (text, rest) ← readLiteral rest
      return (.text (String.ofList text), rest)
    | '[' :: rest => do
      let (items, rest) ← readItems steps rest
      return (.list items, rest)
    | '{' :: rest =>
      match skipBlank rest with
      | '}' :: rest => some (.record [], rest)
      | rest => do
        let (table, rest) ← readPairs steps [] rest
        return (.record (finish table), rest)
    | 't' :: 'r' :: 'u' :: 'e' :: rest => some (.flag true, rest)
    | 'f' :: 'a' :: 'l' :: 's' :: 'e' :: rest => some (.flag false, rest)
    | input => readWhole input

def readItems (steps : Nat) (input : List Char) : Option (List Value × List Char) :=
  match steps with
  | 0 => none
  | steps + 1 => do
    match ← skipLines input with
    | ']' :: rest => return ([], rest)
    | input => do
      let (item, rest) ← readValue steps input
      match ← skipLines rest with
      | ',' :: rest => do
        let (items, rest) ← readItems steps rest
        return (item :: items, rest)
      | ']' :: rest => return ([item], rest)
      | _ => none

def readPairs (steps : Nat) (table : Table) (input : List Char) : Option (Table × List Char) :=
  match steps with
  | 0 => none
  | steps + 1 => do
    let (path, rest) ← readKey input.length input
    match rest with
    | '=' :: rest => do
      let (value, rest) ← readValue steps (skipBlank rest)
      let table ← store value path table
      match skipBlank rest with
      | ',' :: rest => readPairs steps table rest
      | '}' :: rest => return (table, rest)
      | _ => none
    | _ => none

end

/-- A document as far as it has been read: all tables, and the header of the one opened last. -/
structure Progress where
  root : Table := []
  header : List String := []

/-- Opens the table with this path, with `start` for its last key. -/
def Progress.enter (progress : Progress) (path : List String)
    (start : String → Table → Option Table) : Option Progress := do
  let key ← path.getLast?
  return ⟨← under path.dropLast (start key) progress.root, path⟩

def readStatement (progress : Progress) (input : List Char) : Option (Progress × List Char) :=
  match input with
  | [] => some (progress, [])
  | '\n' :: rest => some (progress, '\n' :: rest)
  | '#' :: rest => some (progress, '#' :: rest)
  | '[' :: '[' :: rest => do
    let (path, rest) ← readKey rest.length rest
    match rest with
    | ']' :: ']' :: rest => return (← progress.enter path addTable, rest)
    | _ => none
  | '[' :: rest => do
    let (path, rest) ← readKey rest.length rest
    match rest with
    | ']' :: rest => return (← progress.enter path openTable, rest)
    | _ => none
  | input => do
    let (path, rest) ← readKey input.length input
    match rest with
    | '=' :: rest => do
      let (value, rest) ← readValue (2 * rest.length + 2) (skipBlank rest)
      let root ← under progress.header (store value path) progress.root
      return ({ progress with root }, rest)
    | _ => none

/-- Reads at most `steps` lines. -/
def readLines (steps : Nat) (progress : Progress) (input : List Char) : Option Progress :=
  match steps with
  | 0 => none
  | steps + 1 => do
    let (progress, rest) ← readStatement progress (skipBlank input)
    match ← skipComment? (skipBlank rest) with
    | [] => return progress
    | '\n' :: rest => readLines steps progress rest
    | _ => none

/-- A document with single line feeds for the two-character line ends. -/
def unifyLineEnds : List Char → List Char
  | '\r' :: '\n' :: rest => '\n' :: unifyLineEnds rest
  | c :: rest => c :: unifyLineEnds rest
  | [] => []

/-- A document without the byte order mark that it may begin with. -/
def dropMark : List Char → List Char
  | '\uFEFF' :: rest => rest
  | input => input

def read? (document : String) : Option Value := do
  let input := unifyLineEnds (dropMark document.toList)
  let progress ← readLines (input.length + 1) {} input
  return .record (finish progress.root)

end RouteProbe.Document.Toml
