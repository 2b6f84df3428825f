import RouteProbe.Lookup.Pass
import RouteProbe.Lookup.Probe
import RouteProbe.Lookup.Remembered

/-! # Introspection

Introspection finds out, before a request is dispatched, which router will take it and which
cross-origin policy its route has. It passes a copy of the request through the registry and looks at
the first chain. Answers left on the request are used instead, as long as they are there.
-/

namespace RouteProbe

/-- Answers questions about requests from the routers of a context (`HandlerIntrospector`). -/
structure Introspector where
  context : RouterContext
  settings : IntrospectionSettings := {}
  registry : RouterRegistry := {}

namespace Introspector

variable {σ α : Type}

/-- Sets the registry up, unless it has been already. -/
def prepare (introspector : Introspector) (store : Store) :
    Except RoutingError Introspector × Store :=
  let (result, store) :=
    introspector.registry.prepare introspector.context introspector.settings store
  (result.map fun registry => { introspector with registry }, store)

/-- Sets the registries of several introspectors up, one after another, up to the first that cannot
be. -/
def prepareAll : List Introspector → Store → Except RoutingError (List Introspector) × Store
  | [], store => (.ok [], store)
  | introspector :: rest, store =>
    match introspector.prepare store with
    | (.error error, store) => (.error error, store)
    | (.ok introspector, store) =>
      let (rest, store) := prepareAll rest store
      (rest.map (introspector :: ·), store)

/-- Passes a copy of a request through the registry. -/
def pass (introspector : Introspector) (ignoring : Bool) (extract : Pass.Extractor α)
    (request : Request) : Pass α :=
  Pass.run introspector.registry ignoring extract
    (request.probe introspector.settings.suppressProbeLogging)

/-- What a pass finds, with its journal added to the store. -/
def resolve (introspector : Introspector) (store : Store) (ignoring : Bool)
    (extract : Pass.Extractor α) (request : Request) :
    Except RoutingError (Option α) × Store :=
  let pass := introspector.pass ignoring extract request
  (pass.outcome, store.record pass.journal)

/-- The router that will take a request, bound to the path it takes it by. Errors of routers asked
before it are errors of the question. -/
def boundRouter (introspector : Introspector) (store : Store) (request : Request) :
    Except RoutingError (Option BoundRouter) × Store :=
  match store.remembered? request with
  | some bound => (.ok (some bound), store)
  | none => introspector.resolve store false (Pass.reading fun entry _ probe => entry.bind probe) request

/-- The policy of the route that will take a request. Errors of routers are ignored; every other
error is a wrong state of affairs. -/
def corsPolicy (introspector : Introspector) (store : Store) (request : Request) :
    Except RoutingError (Option CorsPolicy) × Store :=
  match request.rememberedPolicy? with
  | some policy => (.ok policy, store)
  | none =>
    let (result, store) :=
      introspector.resolve store true (Pass.reading fun _ chain probe => chain.corsPolicy probe) request
    ((result.map Option.join).mapError RoutingError.stateFrom, store)

/-- Answers both questions by one pass, in which no error is ignored. -/
def findAnswers (introspector : Introspector) (request : Request) :
    Pass (BoundRouter × Option CorsPolicy) :=
  introspector.pass false
    (Pass.reading fun entry chain probe => do
      let bound ← entry.bind probe
      let policy ← chain.corsPolicy probe
      return (bound, policy))
    request

/-- Leaves both answers on a request, if a router takes it. -/
def fill (introspector : Introspector) (store : Store) (request : Request) :
    Except RoutingError Request × Store :=
  let pass := introspector.findAnswers request
  let store := store.record pass.journal
  match pass.outcome with
  | .error error =>
    (.error (.introspection error),
      store.notify (.introspectionFailed request.method.text request.path error.message))
  | .ok none => (.ok request, store)
  | .ok (some (bound, policy)) =>
    let (request, store) := store.remember request bound policy
    (.ok request, store)

/-- Runs something with both answers on the request, and puts back afterwards what was there before.
If introspection fails, nothing is run. -/
def withAnswers (introspector : Introspector) (visit : Visit σ)
    (body : Visit σ → α × Visit σ) : Except RoutingError α × Visit σ :=
  match introspector.fill visit.store visit.request with
  | (.error error, store) => (.error error, { visit with store })
  | (.ok request, store) =>
    let snapshot := CacheSnapshot.take visit.request
    let (result, visit) := body { visit with request, store }
    (.ok result, visit.mapRequest snapshot.restore)

end Introspector

end RouteProbe
