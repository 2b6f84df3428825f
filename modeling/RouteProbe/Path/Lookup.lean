import RouteProbe.Path.RequestPath

/-! # Lookup paths

Routers that do not look at the request path as it came match a normal form of it instead: the
parameters behind semicolons and all empty segments are left out, and nothing else changes. A
lookup path is the path that a router matched, in either form.
-/

namespace RouteProbe

/-- A segment without its parameters. -/
def withoutParameters (segment : List Char) : List Char := segment.takeWhile (· != ';')

/-- The normal form of a path: a slash before each segment, no parameters, no empty segment, and a
slash at the end if there was one. A path without segments is a single slash. -/
def normalizeLookupPath (path : String) : String :=
  let kept := ((Text.cut '/' path.toList).map withoutParameters).filter (· ≠ [])
  let normal := kept.flatMap ('/' :: ·)
  let trailing := path.toList.length > 1 && path.toList.getLast? == some '/'
  if normal = [] then "/"
  else String.ofList (if trailing then normal ++ ['/'] else normal)

/-- The path that a router matched. -/
inductive LookupPath
  /-- A path in normal form, found by the router itself. -/
  | resolved (path : String)
  /-- The request path, split once for all routers. -/
  | parsed (path : RequestPath)
  deriving DecidableEq, Repr

namespace LookupPath

def text : LookupPath → String
  | resolved path => path
  | parsed path => path.within

def full : LookupPath → String
  | resolved path => path
  | parsed path => path.value

def describe : LookupPath → String
  | resolved path => "Resolved(" ++ Text.quoted path ++ ")"
  | parsed path => "Parsed(" ++ path.describe ++ ")"

end LookupPath

end RouteProbe
