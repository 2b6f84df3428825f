import RouteProbe.Route.PatternRouter

/-! # Router contexts

A router context registers routers, handlers and router factories by name. It may have a parent,
whose registrations are visible in it as well, unless it registers the same name itself. Registering
a name again replaces what it stood for, and keeps its place. A parent never changes once it has
children, so a context holds the registrations of its parents as they are.
-/

namespace RouteProbe

/-- Things registered by name, in the order of the first registration of each name. -/
abbrev Registrations (α : Type) := List (String × α)

namespace Registrations

variable {α : Type}

def put (name : String) (item : α) : Registrations α → Registrations α
  | [] => [(name, item)]
  | (other, old) :: rest =>
    if other = name then (name, item) :: rest else (other, old) :: put name item rest

def get? (registrations : Registrations α) (name : String) : Option α := registrations.lookup name

/-- What is visible where several registrations lie behind one another, the nearest first. -/
def visible : List (Registrations α) → Registrations α
  | [] => []
  | near :: far => near ++ (visible far).filter fun entry => entry.1 ∉ near.map (·.1)

end Registrations

/-- What makes routers of a kind: a bundled factory, or one of the program's own, by its number. -/
inductive RouterFactory
  | handlerName
  | pathPattern
  | custom (number : Nat)
  deriving DecidableEq, Repr

/-- The registrations of one context, without those of its parents. -/
structure ContextLevel where
  routers : Registrations Router := []
  handlers : Registrations Handler := []
  factories : Registrations RouterFactory := []

/-- All that is registered in a context and in its parents, the nearest first. -/
structure ContextLevels where
  own : ContextLevel := {}
  parents : List ContextLevel := []

namespace ContextLevels

def toList (levels : ContextLevels) : List ContextLevel := levels.own :: levels.parents

def routers (levels : ContextLevels) : Registrations Router :=
  Registrations.visible (levels.toList.map (·.routers))

/-- The visible handlers, by registered name. -/
def handlers (levels : ContextLevels) : Registrations Handler :=
  Registrations.visible (levels.toList.map (·.handlers))

/-- The nearest factory of a kind. -/
def factory? (levels : ContextLevels) (kind : String) : Option RouterFactory :=
  levels.toList.findSome? fun level => level.factories.get? kind

end ContextLevels

/-- What the program's own factories make, by number. Each is given all of the context that asks for
the router: routers, handlers, parents, and the factories themselves, by their numbers in this
table. -/
abbrev CustomFactories := Nat → ContextLevels → Except RoutingError Router

/-- A program without factories of its own. -/
def CustomFactories.none : CustomFactories := fun _ _ => .error (.configuration "")

/-- A router context, with what the factories do that can be registered in it. -/
structure RouterContext extends ContextLevels where
  custom : CustomFactories := .none

/-- The kind of routers that lead to handlers by their registered names. -/
def handlerNameKind : String := "handler-name"

/-- The kind of routers that have no routes at first. -/
def pathPatternKind : String := "path-pattern"

/-- The router that leads to each visible handler whose name begins with a slash, with that name as
the pattern. -/
def handlerNameRouter (levels : ContextLevels) : Except RoutingError Router := do
  let named := levels.handlers.filter fun entry => Text.opensWith '/' entry.1
  let routes := named.map fun entry => (⟨entry.1, entry.2, none⟩ : RoutePlan)
  let router ← RouterPlan.build { name := handlerNameKind, mode := .resolved, routes }
  return router.toRouter

def pathPatternRouter : Except RoutingError Router := do
  let router ← RouterPlan.build { name := pathPatternKind, mode := .parsed {} }
  return router.toRouter

/-- What a factory makes for a context. -/
def RouterFactory.make (context : RouterContext) : RouterFactory → Except RoutingError Router
  | handlerName => handlerNameRouter context.toContextLevels
  | pathPattern => pathPatternRouter
  | custom number => context.custom number context.toContextLevels

namespace RouterContext

/-- The context that knows the factories of the bundled kinds. -/
def standard (custom : CustomFactories := .none) : RouterContext where
  own := { factories := [(handlerNameKind, .handlerName), (pathPatternKind, .pathPattern)] }
  custom := custom

/-- An empty context below another. -/
def below (parent : RouterContext) : RouterContext where
  parents := parent.toList
  custom := parent.custom

def parent? (context : RouterContext) : Option RouterContext :=
  match context.parents with
  | [] => none
  | own :: parents => some { own, parents, custom := context.custom }

def addRouter (context : RouterContext) (name : String) (router : Router) : RouterContext :=
  { context with own := { context.own with routers := context.own.routers.put name router } }

def addHandler (context : RouterContext) (name : String) (handler : Handler) : RouterContext :=
  { context with own := { context.own with handlers := context.own.handlers.put name handler } }

def addFactory (context : RouterContext) (kind : String) (factory : RouterFactory) : RouterContext :=
  { context with own := { context.own with factories := context.own.factories.put kind factory } }

/-- Makes a router of a kind for this context, wherever the factory is registered. -/
def createRouter (context : RouterContext) (kind : String) : Except RoutingError Router :=
  match context.factory? kind with
  | none => .error (.configuration s!"no router factory registered for kind '{kind}'")
  | some factory =>
    (factory.make context).mapError fun error =>
      .configuration (s!"failed to create default router '{kind}': " ++ error.message)

def describe (context : RouterContext) : String :=
  let kinds := (NameSet.ofList (context.own.factories.map (·.1))).names
  "RouterContext \x7b routers: " ++ Text.quotedList (context.own.routers.map (·.1)) ++
    ", handlers: " ++ Text.quotedList (context.own.handlers.map (·.1)) ++
    ", factories: " ++ Text.quotedList kinds ++
    ", has_parent: " ++ toString (!context.parents.isEmpty) ++ " \x7d"

end RouterContext

end RouteProbe
