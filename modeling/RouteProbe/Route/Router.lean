import RouteProbe.Journal
import RouteProbe.Pattern.Parse
import RouteProbe.Pattern.Match
import RouteProbe.Request.Paths
import RouteProbe.Route.Chain

/-! # Routers

A router answers a request with a chain, with nothing, or with an error. On the way it may change
the attributes of the request and nothing else of it, and it may leave entries in the journal. Some
routers can also tell whether a request matches a given pattern.
-/

namespace RouteProbe

/-- How a request matches a pattern. -/
structure PathMatch where
  pattern : String
  /-- The path that was matched. -/
  path : String
  bindings : Bindings
  deriving DecidableEq, Repr

/-- What comes of asking a router to resolve a request. -/
structure Resolution where
  outcome : Except RoutingError (Option Chain)
  /-- The attributes of the request afterwards. -/
  attributes : Attributes
  journal : Journal := []

/-- The capability of matching requests against patterns. -/
structure Matcher where
  /-- How patterns are read, if the router matches split request paths. -/
  options : Option PatternOptions := none
  matchPattern : Request → String → Except RoutingError (Option PathMatch)

/-- A router. Routers with a smaller order are asked earlier. -/
structure Router where
  name : String
  order : Int
  resolve : Request → Resolution
  matcher : Option Matcher := none

/-- The order of routers that come last. -/
def Router.lastOrder : Int := 0x7FFFFFFF

/-- How patterns are read if the router says so. -/
def Router.patternOptions? (router : Router) : Option PatternOptions :=
  router.matcher.bind (·.options)

/-- The request as a router leaves it. -/
def Resolution.applyTo (resolution : Resolution) (request : Request) : Request :=
  { request with attributes := resolution.attributes }

def RoutingError.notMatchable (router : String) : RoutingError :=
  .configuration s!"router '{router}' cannot match path patterns"

/-- How a path matches a pattern that has been read. -/
def PathPattern.matchPath? (pattern : PathPattern) (path : String) : Option PathMatch :=
  (pattern.match? path).map fun bindings => ⟨pattern.source, path, bindings⟩

end RouteProbe
