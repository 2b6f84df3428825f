import RouteProbe.Text.Blank
import RouteProbe.Text.Octets
import RouteProbe.Text.Split

/-! # Environment variables

Variables come from the surroundings of the program and from a file of lines such as
`NAME=value`. In such a line a value may be quoted, in part or as a whole; blanks end it unless they
are quoted or escaped, and only a comment may follow them. A dollar sign stands for the value of the
variable that is named behind it, unless it is escaped or between single quotes.
-/

namespace RouteProbe

/-- A name or a value as the system has it: a text, or octets that spell none. -/
inductive OsText
  | text (text : String)
  | octets (octets : List UInt8) (broken : Text.ofOctets? octets = none)
  deriving DecidableEq

instance : Coe String OsText := ⟨.text⟩

def OsText.text? : OsText → Option String
  | .text value => some value
  | .octets .. => none

/-- Variables with their values, in order. -/
abbrev Environment := List (OsText × OsText)

namespace Environment

def value? (environment : Environment) (name : String) : Option String :=
  (environment.lookup (.text name)).bind OsText.text?

/-- The variables that are texts, up to the first one that is not, and whether there is none of that
kind. -/
def texts : Environment → List (String × String) × Bool
  | [] => ([], true)
  | (.text name, .text value) :: rest =>
    let (named, complete) := texts rest
    ((name, value) :: named, complete)
  | _ :: _ => ([], false)

/-- Gives a variable a value, in its place or behind all others. -/
def set (name value : String) : Environment → Environment
  | [] => [(name, value)]
  | (other, old) :: rest =>
    if other = .text name then (other, value) :: rest else (other, old) :: set name value rest

def add (environment : Environment) (name value : String) : Environment :=
  if (environment.value? name).isSome then environment else environment.set name value

/-- How the characters of a value are taken. -/
inductive ValueMode
  | plain
  | single
  | double
  /-- Behind a backslash; the flag tells whether between double quotes. -/
  | escape (quoted : Bool)
  /-- Behind a dollar sign, with what has been read of a name. -/
  | name (quoted : Bool) (read : List Char)
  /-- Between the braces behind a dollar sign. -/
  | braces (quoted : Bool) (read : List Char)
  /-- Behind the value. -/
  | done
  deriving DecidableEq

def ValueMode.around (quoted : Bool) : ValueMode := if quoted then .double else .plain

section

variable (environment : Environment)

/-- What stands for a name behind a dollar sign. -/
def expand (name : List Char) : List Char :=
  ((environment.value? (String.ofList name)).getD "").toList

/-- Reads the value at the start of a text. -/
def readValue : ValueMode → List Char → Option (List Char)
  | .plain, [] | .done, [] | .escape false, [] => some []
  | .name false read, [] => some (environment.expand read)
  | .single, [] | .double, [] | .escape true, [] | .name true _, [] | .braces .., [] => none
  | .done, c :: rest =>
    if c = '#' then some []
    else if c = ' ' ∨ c = '\t' then readValue .done rest
    else none
  | .escape quoted, c :: rest =>
    if c = 'n' then (readValue (.around quoted) rest).map ('\n' :: ·)
    else if c ∈ ['\\', '\'', '"', '$', ' '] then (readValue (.around quoted) rest).map (c :: ·)
    else none
  | .name quoted read, c :: rest =>
    if c.isAlphanum then readValue (.name quoted (read ++ [c])) rest
    else if c = '{' ∧ read = [] then readValue (.braces quoted []) rest
    else if c = '$' then (readValue (.name quoted []) rest).map (environment.expand read ++ ·)
    -- Whatever ends the name is part of the value, be it a quote or a blank.
    else (readValue (.around quoted) rest).map (environment.expand read ++ c :: ·)
  | .braces quoted read, c :: rest =>
    if c = '}' then (readValue (.around quoted) rest).map (environment.expand read ++ ·)
    else readValue (.braces quoted (read ++ [c])) rest
  | .single, c :: rest =>
    if c = '\'' then readValue .plain rest else (readValue .single rest).map (c :: ·)
  | .double, c :: rest =>
    if c = '"' then readValue .plain rest
    else if c = '$' then readValue (.name true []) rest
    else if c = '\\' then readValue (.escape true) rest
    else (readValue .double rest).map (c :: ·)
  | .plain, c :: rest =>
    if c = '\'' then readValue .single rest
    else if c = '"' then readValue .double rest
    else if c = '$' then readValue (.name false []) rest
    else if c = '\\' then readValue (.escape false) rest
    else if c = ' ' ∨ c = '\t' then readValue .done rest
    else (readValue .plain rest).map (c :: ·)

end

def readName? (line : List Char) : Option (String × List Char) :=
  match line with
  | first :: _ =>
    if first.isAlpha || first == '_' then
      let inName := fun (c : Char) => c.isAlphanum || c == '_' || c == '.'
      some (String.ofList (line.takeWhile inName), (line.dropWhile inName).dropWhile Text.isBlank)
    else none
  | [] => none

/-- What a line of a file of variables is. -/
inductive Line
  | empty
  | assignment (name value : String)
  | malformed

section

variable (environment : Environment)

/-- Reads what follows the name of a variable. -/
def readAssignment (name : String) : List Char → Line
  | '=' :: rest =>
    match rest.dropWhile Text.isBlank with
    | [] | '#' :: _ => .assignment name ""
    | value =>
      match environment.readValue .plain value with
      | some value => .assignment name (String.ofList value)
      | none => .malformed
  | _ => .malformed

def readLine (line : String) : Line :=
  match (Text.trim line).toList with
  | [] | '#' :: _ => .empty
  | text =>
    match readName? text with
    | none => .malformed
    | some (name, rest) =>
      if name = "export" ∧ rest.head? ≠ some '=' then
        match readName? rest with
        | none => .malformed
        | some (name, rest) => environment.readAssignment name rest
      else environment.readAssignment name rest

end

/-- Adds the variables of the lines up to the first malformed one; the flag tells whether there was
none. A line may name the variables of those before it. -/
def addLines (environment : Environment) : List String → Environment × Bool
  | [] => (environment, true)
  | line :: rest =>
    match environment.readLine line with
    | .empty => addLines environment rest
    | .assignment name value => addLines (environment.add name value) rest
    | .malformed => (environment, false)

def addFile (environment : Environment) (content : String) : Environment × Bool :=
  environment.addLines (Text.pieces '\n' content)

end Environment

end RouteProbe
