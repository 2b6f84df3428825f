/-! # What can go wrong while routing

One error type is shared by routers, the registry of routers and introspection. Every error belongs
to a category, and the category alone decides the status a client sees. Introspection wraps the
error that stopped it and takes over its category, so wrapping never changes a status.
-/

namespace RouteProbe

/-- The classes of routing errors. -/
inductive ErrorCategory
  | configuration
  | state
  | resolution
  | invalidRequest
  deriving DecidableEq, Repr

namespace ErrorCategory

def all : List ErrorCategory := [.configuration, .state, .resolution, .invalidRequest]

def name : ErrorCategory → String
  | .configuration => "configuration"
  | .state => "state"
  | .resolution => "resolution"
  | .invalidRequest => "invalid_request"

def ofName? (name : String) : Option ErrorCategory := all.find? (·.name == name)

theorem ofName?_name (category : ErrorCategory) : ofName? category.name = some category := by
  cases category <;> decide

/-- A malformed request is the client's fault; everything else is the server's. -/
def status : ErrorCategory → Nat
  | .invalidRequest => 400
  | .configuration | .state | .resolution => 500

end ErrorCategory

/-- An error of a router, of discovery or of introspection. -/
inductive RoutingError
  /-- A router failed while resolving a request, possibly for a cause foreign to routing. -/
  | resolution (router message : String) (cause : Option String)
  /-- The request path cannot be split into context path and rest. -/
  | invalidPath (path reason : String)
  /-- A path pattern does not follow the grammar of patterns. -/
  | invalidPattern (pattern reason : String)
  /-- An operation ran in a state it cannot handle, possibly one that another error led to. -/
  | illegalState (message : String) (cause : Option RoutingError)
  /-- The set-up of the routers is unusable. -/
  | configuration (message : String)
  /-- Introspection failed before downstream processing could run. -/
  | introspection (cause : RoutingError)
  deriving Repr, Inhabited

namespace RoutingError

/-- The one-line description of an error. -/
def message : RoutingError → String
  | resolution router text _ => s!"router '{router}' failed to resolve request: {text}"
  | invalidPath path reason => s!"invalid request path '{path}': {reason}"
  | invalidPattern pattern reason => s!"invalid path pattern '{pattern}': {reason}"
  | illegalState text _ => s!"illegal state: {text}"
  | configuration text => s!"configuration error: {text}"
  | introspection cause => "route introspection failed: " ++ cause.message

/-- The category of an error; a wrapper has that of the error it wraps. -/
def category : RoutingError → ErrorCategory
  | resolution .. => .resolution
  | invalidPath .. | invalidPattern .. => .invalidRequest
  | illegalState .. => .state
  | configuration _ => .configuration
  | introspection cause => cause.category

def status (error : RoutingError) : Nat := error.category.status

/-- The code by which programs recognise the error; a wrapper has its own. -/
def code : RoutingError → String
  | resolution .. => "ROUTER_RESOLUTION_FAILED"
  | invalidPath .. => "INVALID_PATH"
  | invalidPattern .. => "INVALID_PATTERN"
  | illegalState .. => "ILLEGAL_STATE"
  | configuration _ => "ROUTER_CONFIGURATION"
  | introspection _ => "INTROSPECTION_FAILED"

/-- An illegal state that `error` led to, described as `error` describes itself. -/
def stateFrom (error : RoutingError) : RoutingError := illegalState error.message (some error)

/-- What lies behind an error: another routing error, or a cause foreign to routing. -/
inductive Source
  | routing (error : RoutingError)
  | foreign (text : String)
  deriving Repr

/-- The causes behind an error, the nearest first. -/
def sources : RoutingError → List Source
  | resolution _ _ (some cause) => [.foreign cause]
  | illegalState _ (some cause) => .routing cause :: cause.sources
  | introspection cause => .routing cause :: cause.sources
  | _ => []

end RoutingError

end RouteProbe
