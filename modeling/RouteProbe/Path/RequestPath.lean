import RouteProbe.RoutingError
import RouteProbe.Text.Quoted
import RouteProbe.Text.Split

/-! # Request paths

A request path is the path of a target together with the context path that the application is
mounted under. The context path is empty, or it begins with a slash, does not end with one, and
covers whole segments of the path. What follows it is the path within the application. Such a path
is stored as a whole with the length of the context path, and the parts are cut out of it.
-/

namespace RouteProbe

/-- A path split into the context path and the rest. -/
structure RequestPath where
  contextPath : String
  within : String
  deriving DecidableEq, Repr

/-- A request path as it is stored: whole, with the number of octets that the context path takes. -/
structure StoredPath where
  value : String
  contextLength : Nat
  deriving DecidableEq, Repr

namespace StoredPath

/-- The place behind the context path. There is none within a character or past the end. -/
def contextEnd? (stored : StoredPath) : Option stored.value.Pos :=
  stored.value.pos? ⟨stored.contextLength⟩

def contextPath? (stored : StoredPath) : Option String :=
  stored.contextEnd?.map fun place => (stored.value.sliceTo place).copy

def within? (stored : StoredPath) : Option String :=
  stored.contextEnd?.map fun place => (stored.value.sliceFrom place).copy

end StoredPath

/-- The rules that a path and a context path can break. -/
inductive PathFault
  | noLeadingSlash
  | contextNoLeadingSlash (contextPath : String)
  | contextTrailingSlash (contextPath : String)
  | contextNotPrefix (contextPath : String)
  deriving DecidableEq, Repr

def PathFault.reason : PathFault → String
  | noLeadingSlash => "path must start with '/'"
  | contextNoLeadingSlash contextPath => s!"context path '{contextPath}' must start with '/'"
  | contextTrailingSlash contextPath => s!"context path '{contextPath}' must not end with '/'"
  | contextNotPrefix contextPath =>
    s!"context path '{contextPath}' does not prefix the request path"

namespace RequestPath

def value (path : RequestPath) : String := path.contextPath ++ path.within

/-- Splits a path, naming the first rule that it or the context path breaks. -/
def parse? (path contextPath : String) : Except PathFault RequestPath :=
  if !Text.opensWith '/' path then .error .noLeadingSlash
  else if contextPath.toList = [] then .ok ⟨contextPath, path⟩
  else if !Text.opensWith '/' contextPath then .error (.contextNoLeadingSlash contextPath)
  else if Text.closesWith '/' contextPath then .error (.contextTrailingSlash contextPath)
  else match Text.dropStart? contextPath.toList path.toList with
    | some [] => .ok ⟨contextPath, ""⟩
    | some ('/' :: rest) => .ok ⟨contextPath, String.ofList ('/' :: rest)⟩
    | _ => .error (.contextNotPrefix contextPath)

def parse (path contextPath : String) : Except RoutingError RequestPath :=
  (parse? path contextPath).mapError fun fault => .invalidPath path fault.reason

/-- The stored form of a path. -/
def stored (path : RequestPath) : StoredPath := ⟨path.value, path.contextPath.utf8ByteSize⟩

def describe (path : RequestPath) : String :=
  "RequestPath \x7b value: " ++ Text.quoted path.stored.value ++ ", context_len: " ++
    toString path.stored.contextLength ++ " \x7d"

end RequestPath

end RouteProbe
