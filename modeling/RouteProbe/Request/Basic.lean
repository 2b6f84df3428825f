import RouteProbe.Cors.Policy
import RouteProbe.Http.Uri
import RouteProbe.Path.Lookup

/-! # Requests

A request as routers see it: the request line, the headers, the context path, and attributes that
anyone may leave on it while it is processed. An attribute is read for its kind of value; one that
holds another kind counts as absent.
-/

namespace RouteProbe

/-- A value left on a request. -/
inductive AttributeValue
  | text (value : String)
  | flag (value : Bool)
  | natural (value : Nat)
  | integer (value : Int)
  | requestPath (path : RequestPath)
  /-- The outcome of a policy lookup. -/
  | corsOutcome (policy : Option CorsPolicy)
  /-- A bound router, by its number in the store of bound routers. -/
  | boundRouter (number : Nat)
  /-- A value of a kind that nothing here reads, by a number of its own. -/
  | foreign (number : Nat)
  deriving DecidableEq, Repr

namespace AttributeValue

def text? : AttributeValue → Option String
  | text value => some value
  | _ => none

def flag? : AttributeValue → Option Bool
  | flag value => some value
  | _ => none

def natural? : AttributeValue → Option Nat
  | natural value => some value
  | _ => none

def integer? : AttributeValue → Option Int
  | integer value => some value
  | _ => none

def requestPath? : AttributeValue → Option RequestPath
  | requestPath path => some path
  | _ => none

def corsOutcome? : AttributeValue → Option (Option CorsPolicy)
  | corsOutcome policy => some policy
  | _ => none

def boundRouter? : AttributeValue → Option Nat
  | boundRouter number => some number
  | _ => none

end AttributeValue

/-- Attributes by name. -/
abbrev Attributes := NameMap AttributeValue

def Attributes.describe (attributes : Attributes) : String :=
  "Attributes \x7b names: " ++ Text.quotedList attributes.names ++ " \x7d"

namespace AttributeName

/-- Where the lookup path of a router is left that works on normal forms. -/
def lookupPath : String := "archimedes.router.LOOKUP_PATH"

/-- Where the split request path is left for all other routers. -/
def parsedPath : String := "archimedes.router.PARSED_PATH"

/-- Where routers are asked to suppress logging. -/
def suppressLogging : String := "archimedes.router.SUPPRESS_LOGGING"

/-- Where the router is left that introspection has found. -/
def boundRouter : String := "archimedes.introspect.MATCHABLE_ROUTER"

/-- Where the outcome of a policy lookup is left. -/
def corsOutcome : String := "archimedes.introspect.CORS_CONFIG"

end AttributeName

/-- A request. -/
structure Request where
  method : Method := .get
  uri : Uri
  headers : Headers := {}
  /-- The path that the application is mounted under. -/
  contextPath : String := ""
  attributes : Attributes := .empty
  body : List UInt8 := []
  deriving DecidableEq, Repr

namespace Request

def path (request : Request) : String := request.uri.path

def attribute? (request : Request) (name : String) : Option AttributeValue :=
  request.attributes.get? name

/-- Leaves a value on the request, in place of any other of that name. -/
def setAttribute (request : Request) (name : String) (value : AttributeValue) : Request :=
  { request with attributes := request.attributes.insert name value }

def removeAttribute (request : Request) (name : String) : Request :=
  { request with attributes := request.attributes.erase name }

/-- Puts an attribute back to an earlier value, or takes it off if it was absent then. -/
def restoreAttribute (request : Request) (name : String) (value : Option AttributeValue) :
    Request :=
  { request with attributes := request.attributes.setOrErase name value }

def attributeNames (request : Request) : List String := request.attributes.names

/-- Whether routers are asked to suppress logging about the request. -/
def suppressesLogging (request : Request) : Bool :=
  ((request.attribute? AttributeName.suppressLogging).bind AttributeValue.flag?).getD false

def describe (request : Request) : String :=
  "Exchange \x7b method: " ++ request.method.text ++ ", uri: " ++ request.uri.toText ++
    ", context_path: " ++ Text.quoted request.contextPath ++ ", attributes: " ++
    Attributes.describe request.attributes ++ " \x7d"

end Request

end RouteProbe
