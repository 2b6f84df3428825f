import RouteProbe.Request.Basic

/-! # The paths left on a request

A request path is split, and a lookup path found, at most once for several routers: what was found
is left on the request as an attribute, and read from there.
-/

namespace RouteProbe

def RoutingError.missingAttribute (content name : String) : RoutingError :=
  .illegalState s!"expected a {content} in attribute '{name}'" none

namespace Request

def splitPath (request : Request) : Except RoutingError RequestPath :=
  RequestPath.parse request.path request.contextPath

def cacheParsedPath (request : Request) : Except RoutingError (RequestPath × Request) := do
  let path ← request.splitPath
  return (path, request.setAttribute AttributeName.parsedPath (.requestPath path))

/-- The split path left on the request. -/
def parsedPath? (request : Request) : Option RequestPath :=
  (request.attribute? AttributeName.parsedPath).bind AttributeValue.requestPath?

/-- The split path left on the request, which ought to be there. -/
def requireParsedPath (request : Request) : Except RoutingError RequestPath :=
  match request.parsedPath? with
  | some path => .ok path
  | none => .error (.missingAttribute "parsed request path" AttributeName.parsedPath)

/-- Leaves a split path on the request, or takes it off. -/
def setParsedPath (request : Request) (path : Option RequestPath) : Request :=
  request.restoreAttribute AttributeName.parsedPath (path.map .requestPath)

/-- The normal form of the path within the application. -/
def findLookupPath (request : Request) : Except RoutingError String := do
  let path ← request.splitPath
  return normalizeLookupPath path.within

/-- Finds the lookup path and leaves it on the request. -/
def cacheLookupPath (request : Request) : Except RoutingError (String × Request) := do
  let lookup ← request.findLookupPath
  return (lookup, request.setAttribute AttributeName.lookupPath (.text lookup))

/-- The lookup path left on the request. -/
def lookupPath? (request : Request) : Option String :=
  (request.attribute? AttributeName.lookupPath).bind AttributeValue.text?

/-- The lookup path left on the request, which ought to be there. -/
def requireLookupPath (request : Request) : Except RoutingError String :=
  match request.lookupPath? with
  | some lookup => .ok lookup
  | none => .error (.missingAttribute "resolved lookup path" AttributeName.lookupPath)

end Request

namespace LookupPath

/-- The attribute that a lookup path is left under. -/
def attributeName : LookupPath → String
  | resolved _ => AttributeName.lookupPath
  | parsed _ => AttributeName.parsedPath

/-- A lookup path as it is left on a request. -/
def attributeValue : LookupPath → AttributeValue
  | resolved path => .text path
  | parsed path => .requestPath path

end LookupPath

end RouteProbe
