import RouteProbe.Route.Router

/-! # Routers by pattern

A pattern router has a list of routes and answers with the first one whose pattern matches. It
matches either the split request path, which someone else has to leave on the request, or the normal
form of the path, which it finds itself and leaves on the request, whether a route matches or not.
-/

namespace RouteProbe

/-- Which form of the path a pattern router matches. -/
inductive PathMode
  /-- The split request path, with patterns read in this way. -/
  | parsed (options : PatternOptions)
  /-- The normal form. -/
  | resolved
  deriving DecidableEq, Repr

namespace PathMode

/-- How the patterns of the router are read. -/
def options : PathMode → PatternOptions
  | parsed options => options
  | resolved => {}

/-- How patterns are read, where the router says so to others. -/
def declared? : PathMode → Option PatternOptions
  | parsed options => some options
  | resolved => none

end PathMode

/-- A route before its pattern has been read. -/
structure RoutePlan where
  pattern : String
  handler : Handler
  cors : Option CorsPolicy := none

/-- A pattern router before its patterns have been read. -/
structure RouterPlan where
  name : String
  order : Int := Router.lastOrder
  mode : PathMode := .parsed {}
  routes : List RoutePlan := []
  interceptors : List Interceptor := []

/-- A route. -/
structure Route where
  pattern : PathPattern
  handler : Handler
  cors : Option CorsPolicy

/-- A router that answers with the first route that matches. -/
structure PatternRouter where
  name : String
  order : Int
  mode : PathMode
  routes : List Route
  interceptors : List Interceptor

def RoutePlan.build (options : PatternOptions) (plan : RoutePlan) : Except RoutingError Route := do
  return ⟨← PathPattern.parse options (fullPattern plan.pattern), plan.handler, plan.cors⟩

def RouterPlan.build (plan : RouterPlan) : Except RoutingError PatternRouter := do
  let routes ← plan.routes.mapM (RoutePlan.build plan.mode.options)
  return ⟨plan.name, plan.order, plan.mode, routes, plan.interceptors⟩

/-- The chain of a route: its own policy in front of the interceptors of the router. -/
def Route.chain (interceptors : List Interceptor) (route : Route) : Chain :=
  let chain := Chain.appendAll ⟨route.handler, []⟩ interceptors
  match route.cors with
  | some policy => chain.prepend (.ofPolicy policy)
  | none => chain

namespace PatternRouter

/-- The first route whose pattern matches a path. -/
def route? (router : PatternRouter) (path : String) : Option Route :=
  router.routes.find? fun route => route.pattern.isMatch path

/-- Finds the path to match, in the form that the router wants, and the request with what has been
left on it. -/
def findPath (router : PatternRouter) (request : Request) :
    Except RoutingError (String × Request) :=
  match router.mode with
  | .parsed _ => do return ((← request.requireParsedPath).within, request)
  | .resolved => request.cacheLookupPath

/-- Answers a request. -/
def resolve (router : PatternRouter) (request : Request) : Resolution :=
  match router.findPath request with
  | .error error => ⟨.error error, request.attributes, []⟩
  | .ok (path, request) =>
    match router.route? path with
    | none =>
      ⟨.ok none, request.attributes,
        if request.suppressesLogging then [] else [.notice (.noRouteMatched router.name path)]⟩
    | some route =>
      ⟨.ok (some (route.chain router.interceptors)), request.attributes,
        if request.suppressesLogging then []
        else [.notice (.mappedRequest router.name path route.pattern.source route.handler.name)]⟩

/-- The path that patterns are matched against, which ought to be on the request. -/
def requirePath (router : PatternRouter) (request : Request) : Except RoutingError String :=
  match router.mode with
  | .parsed _ => do return (← request.requireParsedPath).within
  | .resolved => request.requireLookupPath

/-- Whether the path on a request matches a pattern. -/
def matchPattern (router : PatternRouter) (request : Request) (pattern : String) :
    Except RoutingError (Option PathMatch) := do
  let path ← router.requirePath request
  let pattern ← PathPattern.parse router.mode.options pattern
  return pattern.matchPath? path

/-- A pattern router as a router. -/
def toRouter (router : PatternRouter) : Router where
  name := router.name
  order := router.order
  resolve := router.resolve
  matcher := some ⟨router.mode.declared?, router.matchPattern⟩

end PatternRouter

end RouteProbe
