import RouteProbe.Text.Casing

/-! # Path patterns

A pattern is a row of elements, each of which stands for some segments of a path:

* a literal stands for one segment with that text;
* a glob for one segment, in which a question mark is any character and a star any run of them;
* a capture for one segment, whose text it binds to a name;
* a capture of the rest for all remaining segments, bound together to a name;
* a double star for any number of segments.
-/

namespace RouteProbe

/-- How the patterns of a router are read and matched. -/
structure PatternOptions where
  /-- Whether letters that differ only in case are different. -/
  caseSensitive : Bool := true
  /-- Whether a path may end with a slash that its pattern does not have. -/
  optionalTrailing : Bool := false
  deriving DecidableEq, Repr

/-- The form of a text in which texts that these options do not tell apart are equal. -/
def PatternOptions.fold (options : PatternOptions) (text : String) : String :=
  if options.caseSensitive then text else Text.lowercase text

/-- A pattern as it is looked up: with a slash in front, unless it is empty. -/
def fullPattern (pattern : String) : String :=
  if pattern.toList = [] ∨ pattern.toList.head? = some '/' then pattern else "/" ++ pattern

/-- One element of a pattern. -/
inductive PatternElement
  | literal (text : String)
  | glob (text : String)
  | capture (name : String)
  | captureRest (name : String)
  | multi
  deriving DecidableEq, Repr

namespace PatternElement

/-- The variable that an element binds. -/
def capturedName? : PatternElement → Option String
  | capture name | captureRest name => some name
  | _ => none

/-- Whether an element takes segments to the end of the path. -/
def isOpen : PatternElement → Bool
  | multi | captureRest _ => true
  | _ => false

end PatternElement

/-- A pattern ready to be matched. -/
structure PathPattern where
  /-- The text the pattern was read from. -/
  source : String
  elements : List PatternElement
  /-- Whether the pattern begins with a slash. -/
  leading : Bool
  /-- Whether the pattern ends with a slash, the first one apart. -/
  trailing : Bool
  options : PatternOptions
  deriving DecidableEq, Repr

/-- Whether the last element takes segments to the end of the path. -/
def PathPattern.endsOpen (pattern : PathPattern) : Bool :=
  match pattern.elements.getLast? with
  | some element => element.isOpen
  | none => false

end RouteProbe
