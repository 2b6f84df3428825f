import RouteProbe.Proofs.Request.PathAttributes
import RouteProbe.Route.Wrapped

/-! # How pattern routers answer

A pattern router looks its path up in the form it wants and answers with the chain of the first
route that matches it. Apart from the lookup path that it leaves it changes nothing, and counting
its calls changes nothing but the journal.
-/

namespace RouteProbe

/-- A router for split paths says how its patterns are read. -/
theorem PathMode.isSome_declared? {mode : PathMode} (split : mode ≠ .resolved) :
    mode.declared?.isSome = true := by
  cases mode with
  | parsed options => rfl
  | resolved => contradiction

/-- The routers that answer as a pattern router does: itself, and itself with its calls counted. -/
inductive PatternRouter.Serves (pattern : PatternRouter) : Router → Prop
  | plain : Serves pattern pattern.toRouter
  | counted {router : Router} (inner : Serves pattern router) : Serves pattern router.counted

namespace PatternRouter.Serves

variable {pattern : PatternRouter} {router : Router}

theorem matcher_eq (serves : pattern.Serves router) :
    router.matcher = some ⟨pattern.mode.declared?, pattern.matchPattern⟩ := by
  induction serves with
  | plain => rfl
  | counted _ ih => exact ih

theorem order_eq (serves : pattern.Serves router) : router.order = pattern.order := by
  induction serves with
  | plain => rfl
  | counted _ ih => exact ih

theorem patternOptions?_eq (serves : pattern.Serves router) :
    router.patternOptions? = pattern.mode.declared? := by
  rw [Router.patternOptions?, serves.matcher_eq]
  rfl

theorem outcome_eq (serves : pattern.Serves router) (request : Request) :
    (router.resolve request).outcome = (pattern.resolve request).outcome := by
  induction serves with
  | plain => rfl
  | counted _ ih => exact ih

theorem attributes_eq (serves : pattern.Serves router) (request : Request) :
    (router.resolve request).attributes = (pattern.resolve request).attributes := by
  induction serves with
  | plain => rfl
  | counted _ ih => exact ih

end PatternRouter.Serves

namespace PatternRouter

variable {router : PatternRouter} {request after : Request} {path : String}

/-- The path that the router takes a request by, in the form it wants. -/
def lookupOf (router : PatternRouter) (path : RequestPath) : LookupPath :=
  match router.mode with
  | .parsed _ => .parsed path
  | .resolved => .resolved (normalizeLookupPath path.within)

theorem findPath_parsed_iff {options : PatternOptions} (mode : router.mode = .parsed options) :
    router.findPath request = .ok (path, after) ↔
      ∃ split, request.parsedPath? = some split ∧ split.within = path ∧ request = after := by
  simp only [findPath, mode, bind_eq_ok_iff, pure_eq_ok_iff, Prod.mk.injEq,
    Request.requireParsedPath_eq_ok_iff]

theorem findPath_resolved_iff (mode : router.mode = .resolved) :
    router.findPath request = .ok (path, after) ↔
      ∃ split, request.splitPath = .ok split ∧ normalizeLookupPath split.within = path ∧
        request.setAttribute AttributeName.lookupPath (.text path) = after := by
  simp only [findPath, mode, Request.cacheLookupPath, Request.findLookupPath, bind_eq_ok_iff,
    pure_eq_ok_iff, Prod.mk.injEq]
  constructor
  · rintro ⟨_, ⟨split, found, rfl⟩, rfl, rfl⟩
    exact ⟨split, found, rfl, rfl⟩
  · rintro ⟨split, found, rfl, rfl⟩
    exact ⟨_, ⟨split, found, rfl⟩, rfl, rfl⟩

theorem resolve_of_findPath (found : router.findPath request = .ok (path, after)) :
    (router.resolve request).outcome =
        .ok ((router.route? path).map (Route.chain router.interceptors)) ∧
      (router.resolve request).attributes = after.attributes := by
  simp only [resolve, found]
  cases router.route? path with
  | none => exact ⟨rfl, rfl⟩
  | some route => exact ⟨rfl, rfl⟩

theorem applyTo_of_findPath (found : router.findPath request = .ok (path, after)) :
    (router.resolve request).applyTo request = after := by
  rw [Resolution.applyTo, (resolve_of_findPath found).2]
  cases mode : router.mode with
  | parsed options =>
    obtain ⟨_, _, _, rfl⟩ := (findPath_parsed_iff mode).mp found
    rfl
  | resolved =>
    obtain ⟨_, _, _, rfl⟩ := (findPath_resolved_iff mode).mp found
    rfl

theorem resolve_eq_chain {chain : Chain}
    (answered : (router.resolve request).outcome = .ok (some chain)) :
    ∃ path after route, router.findPath request = .ok (path, after) ∧
      router.route? path = some route ∧ route.chain router.interceptors = chain := by
  cases found : router.findPath request with
  | error error =>
    simp only [resolve, found] at answered
    cases answered
  | ok result =>
    obtain ⟨path, after⟩ := result
    rw [(resolve_of_findPath found).1] at answered
    obtain ⟨route, first, same⟩ := Option.map_eq_some_iff.mp (Except.ok.inj answered)
    exact ⟨path, after, route, rfl, first, same⟩

/-- A router with one route, for everything below its own name. -/
def below (name : String) (mode : PathMode) : PatternRouter where
  name := name
  order := 0
  mode := mode
  routes := [⟨⟨"/" ++ name ++ "/**", [.literal name, .multi], true, false, mode.options⟩,
    .operation name, none⟩]
  interceptors := []

end PatternRouter

/-- A probe that can be split, and has been if some router wants it to be. -/
structure Request.IsReady (wanted : Bool) (path : RequestPath) (probe : Request) : Prop where
  split : probe.splitPath = .ok path
  parsed : wanted = true → probe.parsedPath? = some path

/-- On a probe that is ready a pattern router finds its own path, and leaves the probe ready. -/
theorem Request.IsReady.findPath {wanted : Bool} {path : RequestPath} {probe : Request}
    {pattern : PatternRouter} (ready : probe.IsReady wanted path)
    (wants : pattern.mode ≠ .resolved → wanted = true) :
    ∃ after, pattern.findPath probe = .ok ((pattern.lookupOf path).text, after) ∧
      after.IsReady wanted path := by
  cases mode : pattern.mode with
  | parsed options =>
    have parsed := ready.parsed (wants (by simp [mode]))
    refine ⟨probe, (PatternRouter.findPath_parsed_iff mode).mpr ⟨path, parsed, ?_, rfl⟩, ready⟩
    simp only [PatternRouter.lookupOf, mode, LookupPath.text]
  | resolved =>
    refine ⟨_, (PatternRouter.findPath_resolved_iff mode).mpr ⟨path, ready.split, ?_, rfl⟩, ?_⟩
    · simp only [PatternRouter.lookupOf, mode, LookupPath.text]
    · refine ⟨ready.split, fun used => ?_⟩
      rw [Request.parsedPath?_setAttribute_lookupPath]
      exact ready.parsed used

end RouteProbe
