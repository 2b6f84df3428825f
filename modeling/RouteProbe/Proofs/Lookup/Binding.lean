import RouteProbe.Proofs.Discovery.RegisteredRouters
import RouteProbe.Proofs.Lookup.Passages
import RouteProbe.Proofs.Route.PatternRouters

/-! # Binding routers

A binding reads the path off the probe: the split path for a router that has a pattern table, the
lookup path for any other that can match patterns. A pattern router leaves on the probe the path
that it has found.
-/

namespace RouteProbe

/-- The cache of a bound router. -/
def BoundRouter.cache? : BoundRouter → Option PatternCache
  | resolved _ _ _ => none
  | parsed cache _ => some cache

namespace RegisteredRouter

variable {entry : RegisteredRouter} {pattern : PatternRouter} {probe after : Request} {path : String}
  {matcher : Matcher}

/-- What a binding comes to: a router that has a pattern table is bound to the split path on the
probe, and another one that can match patterns to the lookup path. -/
theorem bind_eq_ok_iff {bound : BoundRouter} :
    entry.bind probe = .ok bound ↔
      (∃ cache split, entry.cache = some cache ∧ probe.parsedPath? = some split ∧
        .parsed cache split = bound) ∨
      (entry.cache = none ∧ ∃ matcher path, entry.router.matcher = some matcher ∧
        probe.lookupPath? = some path ∧ .resolved entry.router matcher path = bound) := by
  cases cached : entry.cache with
  | some cache =>
    simp only [RegisteredRouter.bind, cached, RouteProbe.bind_eq_ok_iff, pure_eq_ok_iff,
      Request.requireParsedPath_eq_ok_iff]
    simp
  | none =>
    cases matchable : entry.router.matcher with
    | none => simp [RegisteredRouter.bind, cached, matchable]
    | some matcher =>
      simp only [RegisteredRouter.bind, cached, matchable, Option.isNone_some, Bool.false_eq_true,
        if_false, RouteProbe.bind_eq_ok_iff, Request.requireLookupPath_eq_ok_iff,
        BoundRouter.resolve?]
      simp

theorem bind_of_no_lookupPath (uncached : entry.cache = none)
    (matchable : entry.router.matcher = some matcher) (missing : probe.lookupPath? = none) :
    entry.bind probe =
      .error (.missingAttribute "resolved lookup path" AttributeName.lookupPath) := by
  simp only [RegisteredRouter.bind, uncached, matchable, Option.isNone_some, Bool.false_eq_true,
    if_false, Request.requireLookupPath, missing]
  rfl

theorem bind_of_answers {chain : Chain} {bound : BoundRouter} {policy : Option CorsPolicy}
    (answered : (do
      let bound ← entry.bind probe
      let policy ← chain.corsPolicy probe
      return (bound, policy)) = .ok (bound, policy)) : entry.bind probe = .ok bound := by
  obtain ⟨value, binding, rest⟩ := RouteProbe.bind_eq_ok_iff.mp answered
  obtain ⟨_, _, same⟩ := RouteProbe.bind_eq_ok_iff.mp rest
  obtain ⟨rfl, _⟩ := Prod.mk.inj (pure_eq_ok_iff.mp same)
  exact binding

theorem cache?_of_bind {bound : BoundRouter} (binding : entry.bind probe = .ok bound) :
    bound.cache? = entry.cache := by
  rcases bind_eq_ok_iff.mp binding with ⟨cache, _, cached, _, rfl⟩ | ⟨uncached, _, _, _, _, rfl⟩
  · exact cached.symm
  · exact uncached.symm

theorem router_of_bind {bound : BoundRouter} (wellFormed : entry.WellFormed)
    (binding : entry.bind probe = .ok bound) : bound.router = entry.router := by
  rcases bind_eq_ok_iff.mp binding with ⟨cache, _, cached, _, rfl⟩ | ⟨_, _, _, _, _, rfl⟩
  · exact wellFormed.router_eq cached
  · rfl

theorem leave_of_findPath (serves : pattern.Serves entry.router)
    (found : pattern.findPath probe = .ok (path, after)) : entry.leave probe = after := by
  rw [leave, Resolution.applyTo, serves.attributes_eq]
  exact PatternRouter.applyTo_of_findPath found

theorem answer_of_findPath (serves : pattern.Serves entry.router)
    (found : pattern.findPath probe = .ok (path, after)) :
    entry.answer probe = .ok ((pattern.route? path).map (Route.chain pattern.interceptors)) := by
  rw [answer, serves.outcome_eq, (PatternRouter.resolve_of_findPath found).1]

/-- A router for split paths has a pattern table, and is bound to the split path. -/
theorem bind_parsed (serves : pattern.Serves entry.router) (wellFormed : entry.WellFormed)
    {options : PatternOptions} (mode : pattern.mode = .parsed options) {split : RequestPath}
    (left : probe.parsedPath? = some split) :
    ∃ cache, cache.options = options ∧ entry.bind probe = .ok (.parsed cache split) := by
  have declared := wellFormed.options_eq
  rw [serves.patternOptions?_eq, mode] at declared
  obtain ⟨cache, cached, same⟩ := Option.map_eq_some_iff.mp declared
  exact ⟨cache, same, bind_eq_ok_iff.mpr (.inl ⟨cache, split, cached, left, rfl⟩)⟩

/-- A router for normal forms has no pattern table, and is bound to the lookup path. -/
theorem bind_resolved (serves : pattern.Serves entry.router) (wellFormed : entry.WellFormed)
    (mode : pattern.mode = .resolved) (left : probe.lookupPath? = some path) :
    entry.bind probe = .ok (.resolved entry.router ⟨none, pattern.matchPattern⟩ path) := by
  have undeclared := serves.patternOptions?_eq
  have matchable := serves.matcher_eq
  rw [mode] at undeclared matchable
  have uncached := wellFormed.cache_eq_none undeclared
  exact bind_eq_ok_iff.mpr (.inr ⟨uncached, _, path, matchable, left, rfl⟩)

end RegisteredRouter

end RouteProbe
