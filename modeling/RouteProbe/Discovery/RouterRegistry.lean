import RouteProbe.Discovery.RouterContext
import RouteProbe.Lookup.Bound
import RouteProbe.Settings.Basic

/-! # Router registries

The registry lists the routers that introspection asks, in the order it asks them. It is set up
once, from the routers that are visible in a context or, if there are none, from the default kinds,
and never changes after that. A failed attempt leaves nothing behind. An attempt is one step here;
several threads that make one at the same time are not modelled.
-/

namespace RouteProbe

/-- A router in the registry; one that matches split request paths has its pattern cache. -/
structure RegisteredRouter where
  router : Router
  cache : Option PatternCache

/-- Whether the router wants the request path to be split for it. -/
def RegisteredRouter.usesParsedPath (entry : RegisteredRouter) : Bool := entry.cache.isSome

/-- The routers to ask, once they are known. -/
structure RouterRegistry where
  entries? : Option (List RegisteredRouter) := none

/-- The routers of a context, or those of the default kinds, with the notice that tells of it. -/
def discover (context : RouterContext) (settings : IntrospectionSettings) :
    Except RoutingError (List Router × Notice) :=
  match context.routers.map (·.2) with
  | [] => do
    let routers ← settings.routerKinds.mapM context.createRouter
    return (routers, .usingDefaultRouters settings.routerKinds)
  | first :: rest =>
    let routers := (first :: rest).mergeSort fun left right => decide (left.order ≤ right.order)
    .ok (routers, .discoveredRouters (routers.map (·.name)))

/-- The entries of routers, with a pattern table for each one that wants one. -/
def register (limit : UInt64) : List Router → Store → List RegisteredRouter × Store
  | [], store => ([], store)
  | router :: rest, store =>
    let (cache, store) := store.addCache router limit
    let (entries, store) := register limit rest store
    (⟨router, cache⟩ :: entries, store)

namespace RouterRegistry

def isReady (registry : RouterRegistry) : Bool := registry.entries?.isSome

/-- Sets the registry up, unless it has been already. -/
def prepare (registry : RouterRegistry) (context : RouterContext) (settings : IntrospectionSettings)
    (store : Store) : Except RoutingError RouterRegistry × Store :=
  match registry.entries? with
  | some _ => (.ok registry, store)
  | none =>
    match discover context settings with
    | .error error => (.error error, store)
    | .ok (routers, notice) =>
      let (entries, store) := register settings.patternCacheLimit routers (store.notify notice)
      (.ok ⟨some entries⟩, store)

/-- The entries, which ought to be known. -/
def require (registry : RouterRegistry) : Except RoutingError (List RegisteredRouter) :=
  match registry.entries? with
  | some entries => .ok entries
  | none => .error (.illegalState "router registry has not been initialized" none)

def routers (registry : RouterRegistry) : List Router := (registry.entries?.getD []).map (·.router)

end RouterRegistry

end RouteProbe
