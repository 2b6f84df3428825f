import RouteProbe.Lookup.Introspector
import RouteProbe.Pipeline.Envelope
import RouteProbe.Pipeline.Stage

/-! # The stage that remembers answers

The stage leaves the answers of an introspector on the request for the rest of the run, and puts
back what was there before, however the run ends. If introspection fails, the rest does not run and
the response reports the error.
-/

namespace RouteProbe

/-- The stage that leaves the answers of an introspector on a request. -/
def Introspector.stage {σ : Type} (introspector : Introspector) : Stage σ where
  name := "introspection_cache"
  process := fun next visit =>
    let filled := introspector.withAnswers visit fun visit =>
      let matched := (visit.store.remembered? visit.request).isSome
      next (visit.notify (.cachePopulated visit.request.path matched))
    match filled with
    | (.ok outcome, visit) => (outcome, visit)
    | (.error error, visit) => (.done (.ofError error), visit)

end RouteProbe
