import RouteProbe.Route.PatternRouter

/-! # Routers made of others

Routers that count their calls, that fail on one path, that always answer the same, or that follow a
script. They show what introspection does with routers of every kind.
-/

namespace RouteProbe.Router

def counted (inner : Router) : Router :=
  { inner with
    resolve := fun request =>
      let resolution := inner.resolve request
      { resolution with journal := .call inner.name :: resolution.journal } }

def failingOn (inner : Router) (path : String) : Router :=
  { inner with
    resolve := fun request =>
      if request.path = path then
        ⟨.error (.resolution inner.name s!"backend unavailable for '{path}'" none),
          request.attributes, []⟩
      else inner.resolve request }

def always (name : String) (order : Int) (chain : Chain) : Router where
  name := name
  order := order
  resolve := fun request => ⟨.ok (some chain), request.attributes, []⟩

def ofPatterns (name : String) (order : Int) (mode : PathMode) (patterns : List String) :
    Except RoutingError Router := do
  let routes := patterns.map fun pattern => (⟨pattern, .operation name, none⟩ : RoutePlan)
  let router ← RouterPlan.build { name, order, mode, routes }
  return router.toRouter.counted

end RouteProbe.Router

namespace RouteProbe

/-- What a scripted router does with every request. -/
structure RouterScript where
  /-- The attributes it leaves, in order. -/
  sets : List (String × AttributeValue) := []
  /-- The attributes it takes off after that. -/
  removals : List String := []
  answer : Except RoutingError (Option Chain) := .ok none
  /-- Whether it can match patterns, and how it says that they are read. -/
  matchable : Option (Option PatternOptions) := none

namespace RouterScript

def changed (script : RouterScript) (attributes : Attributes) : Attributes :=
  let extended :=
    script.sets.foldl (fun attributes entry => attributes.insert entry.1 entry.2) attributes
  script.removals.foldl (fun attributes name => attributes.erase name) extended

/-- The router that follows a script. It matches every pattern against the lookup path that was left
on the request. -/
def toRouter (script : RouterScript) (name : String) (order : Int) : Router where
  name := name
  order := order
  resolve := fun request => ⟨script.answer, script.changed request.attributes, []⟩
  matcher := script.matchable.map fun options =>
    ⟨options, fun request pattern =>
      .ok (some ⟨pattern, request.lookupPath?.getD "<absent>", {}⟩)⟩

end RouterScript

end RouteProbe
