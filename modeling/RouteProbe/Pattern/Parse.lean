import RouteProbe.Pattern.Basic
import RouteProbe.RoutingError
import RouteProbe.Text.Split

/-! # Reading patterns

The segments of a pattern are read one by one from the left, and the first one that breaks a rule
decides the fault. Braces may only enclose a whole segment, no variable is captured twice, and a
capture of the rest stands last.
-/

namespace RouteProbe

/-- The rules that a pattern can break. -/
inductive PatternFault
  | unclosedVariable
  | nestedBraces
  | emptyVariableName
  | partialVariable
  | repeatedVariable (name : String)
  | restNotLast
  deriving DecidableEq, Repr

def PatternFault.reason : PatternFault → String
  | unclosedVariable => "unclosed variable"
  | nestedBraces => "nested braces"
  | emptyVariableName => "empty variable name"
  | partialVariable => "variables must span a whole segment"
  | repeatedVariable name => s!"variable '{name}' is captured more than once"
  | restNotLast => "a '\x7b*name\x7d' capture must be the last segment"

def isBrace (c : Char) : Bool := c == '{' || c == '}'

/-- Whether a character stands for others in a glob. -/
def isWildcard (c : Char) : Bool := c == '*' || c == '?'

namespace PatternElement

/-- The element that the text between two braces stands for. -/
def parseVariable (inner : List Char) : Except PatternFault PatternElement :=
  if inner.any isBrace then .error .nestedBraces
  else match inner with
    | [] => .error .emptyVariableName
    | '*' :: name =>
      if name = [] then .error .emptyVariableName else .ok (.captureRest (String.ofList name))
    | name => .ok (.capture (String.ofList name))

/-- The element that one segment of a pattern stands for. -/
def parse (options : PatternOptions) (segment : String) : Except PatternFault PatternElement :=
  match segment.toList with
  | ['*', '*'] => .ok .multi
  | '{' :: inner =>
    if inner.getLast? = some '}' then parseVariable inner.dropLast else .error .unclosedVariable
  | text =>
    if text.any isBrace then .error .partialVariable
    else if text.any isWildcard then .ok (.glob (options.fold segment))
    else .ok (.literal (options.fold segment))

end PatternElement

/-- Reads the segments of a pattern, given the variables captured before them. -/
def PathPattern.parseElements (options : PatternOptions) (seen : List String) :
    List String → Except PatternFault (List PatternElement)
  | [] => .ok []
  | segment :: rest => do
    let element ← PatternElement.parse options segment
    match element.capturedName? with
    | none => return element :: (← parseElements options seen rest)
    | some name =>
      if name ∈ seen then throw (.repeatedVariable name)
      match element, rest with
      | .captureRest _, _ :: _ => throw .restNotLast
      | _, _ => return element :: (← parseElements options (seen ++ [name]) rest)

/-- Reads a pattern, naming the rule it breaks if it is not one. -/
def PathPattern.parse? (options : PatternOptions) (pattern : String) :
    Except PatternFault PathPattern := do
  let body := Text.dropOpening '/' pattern
  let elements ← parseElements options [] (Text.segments body)
  return {
    source := pattern
    elements
    leading := Text.opensWith '/' pattern
    trailing := Text.closesWith '/' body
    options }

def PathPattern.parse (options : PatternOptions) (pattern : String) :
    Except RoutingError PathPattern :=
  (parse? options pattern).mapError fun fault => .invalidPattern pattern fault.reason

end RouteProbe
