import RouteProbe.Proofs.Lookup.DispatchAgreement
import RouteProbe.Proofs.Lookup.PassTraces

/-! # Errors about paths

Over pattern routers nothing can go wrong but the path of the request, and whoever finds out first
decides what comes of it. If some router is for split paths, the path is split before any router is
asked, and the error ends the pass in any case; otherwise every router finds out for itself, and a
policy lookup passes it over. Main statement: `Introspector.errors_of_patternRouters`.
-/

namespace RouteProbe

section Rejected

variable {entries : List RegisteredRouter} {entry : RegisteredRouter} {served : List ServedRouter}
  {pattern : PatternRouter} {probe : Request} {error : RoutingError}

theorem RegisteredRouter.answer_of_rejected (serves : pattern.Serves entry.router)
    (mode : pattern.mode = .resolved) (rejected : probe.splitPath = .error error) :
    entry.answer probe = .error error ∧ entry.leave probe = probe := by
  have lost : pattern.findPath probe = .error error := by
    simp only [PatternRouter.findPath, mode, Request.cacheLookupPath, Request.findLookupPath, rejected]
    rfl
  have resolved : pattern.resolve probe = ⟨.error error, probe.attributes, []⟩ := by
    simp only [PatternRouter.resolve, lost]
  constructor
  · rw [answer, serves.outcome_eq, resolved]
  · rw [leave, Resolution.applyTo, serves.attributes_eq, resolved]

/-- Where some router wants the path to be split, a path that cannot be ends the pass before it
begins. -/
theorem Pass.splitFor_of_rejected (entries : List RegisteredRouter)
    (rejected : probe.splitPath = .error error) :
    splitFor entries probe =
      if entries.any RegisteredRouter.usesParsedPath then .error error else .ok probe := by
  simp only [splitFor, Request.cacheParsedPath, rejected]
  rfl

namespace PatternRegistry

theorem wants_iff (registry : PatternRegistry entries served) :
    entries.any RegisteredRouter.usesParsedPath = true ↔
      ∃ candidate ∈ served, ∃ options, candidate.pattern.mode = .parsed options := by
  constructor
  · intro wanted
    obtain ⟨entry, member, uses⟩ := List.any_eq_true.mp wanted
    obtain ⟨candidate, listed, same⟩ := registry.of_entry entry member
    cases mode : candidate.pattern.mode with
    | parsed options => exact ⟨candidate, listed, options, mode⟩
    | resolved =>
      have undeclared : entry.router.patternOptions? = none := by
        rw [← same, candidate.serves.patternOptions?_eq, mode]
        rfl
      have uncached := (registry.wellFormed entry member).cache_eq_none undeclared
      rw [RegisteredRouter.usesParsedPath, uncached] at uses
      contradiction
  · rintro ⟨candidate, listed, options, mode⟩
    obtain ⟨entry, member, same⟩ := registry.of_served candidate listed
    have split : candidate.pattern.mode ≠ .resolved := by simp [mode]
    exact registry.wants member (same ▸ candidate.serves) split

theorem answer_of_rejected (registry : PatternRegistry entries served)
    (unwanted : ¬ entries.any RegisteredRouter.usesParsedPath = true)
    (member : entry ∈ entries) (rejected : probe.splitPath = .error error) :
    entry.answer probe = .error error ∧ entry.leave probe = probe := by
  obtain ⟨pattern, serves⟩ := registry.exists_serves member
  have mode : pattern.mode = .resolved :=
    Decidable.byContradiction fun split => unwanted (registry.wants member serves split)
  exact RegisteredRouter.answer_of_rejected serves mode rejected

/-- If there are any routers, a pass in which failures count fails, before it begins or at the first
of them. -/
theorem pass_of_rejected (registry : PatternRegistry entries served) (nonempty : entries ≠ [])
    (rejected : probe.splitPath = .error error) :
    (Pass.splitFor entries probe >>= fun first =>
      (Pass.ask false (Pass.reading fun entry _ probe => entry.bind probe) entries first).outcome) =
        .error error := by
  rw [Pass.splitFor_of_rejected entries rejected]
  split
  · rfl
  next unwanted =>
    obtain ⟨first, rest, rfl⟩ := List.exists_cons_of_ne_nil nonempty
    obtain ⟨failed, _⟩ := registry.answer_of_rejected unwanted List.mem_cons_self rejected
    exact Pass.ask_outcome_of_error (.nil probe) failed

theorem ask_ignoring_of_rejected (registry : PatternRegistry entries served)
    (unwanted : ¬ entries.any RegisteredRouter.usesParsedPath = true)
    (rejected : probe.splitPath = .error error) :
    (Pass.ask true (Pass.reading fun _ chain probe => chain.corsPolicy probe) entries probe).outcome =
      .ok none := by
  have passed : ∀ entry ∈ entries, ∀ seen : Request, seen.splitPath = .error error →
      entry.PassesOver true seen ∧ (entry.leave seen).splitPath = .error error := by
    intro entry member seen rejected
    obtain ⟨failed, left⟩ := registry.answer_of_rejected unwanted member rejected
    rw [left]
    exact ⟨.inr ⟨rfl, error, failed⟩, rejected⟩
  obtain ⟨last, passage, _⟩ := Passage.exists_of_passesOver passed rejected
  exact Pass.ask_outcome_of_passage passage

theorem exists_ask_of_split {path : RequestPath} (registry : PatternRegistry entries served)
    (splits : probe.splitPath = .ok path) :
    ∃ first answer, Pass.splitFor entries probe = .ok first ∧
      (Pass.ask false (Pass.reading fun entry _ probe => entry.bind probe) entries first).outcome =
        .ok answer := by
  obtain ⟨first, split, ready⟩ := Pass.splitFor_isReady entries splits
  rcases registry.ask_outcome ready with ⟨outcome, _⟩ | ⟨_, _, _, bound, _, _, _, _, outcome⟩
  · exact ⟨first, none, split, outcome⟩
  · exact ⟨first, some bound, split, outcome⟩

end PatternRegistry

end Rejected

namespace Introspector

section

variable {introspector : Introspector} {entries : List RegisteredRouter} {served : List ServedRouter}
  {store : Store} {request : Request} {error : RoutingError}
  (listed : introspector.registry.entries? = some entries) (registry : PatternRegistry entries served)

include listed registry

theorem boundRouter_eq_error_iff (fresh : store.remembered? request = none) :
    (introspector.boundRouter store request).1 = .error error ↔
      entries ≠ [] ∧ request.splitPath = .error error := by
  rw [boundRouter_outcome listed fresh, firstProbe]
  have probed : (request.probe introspector.settings.suppressProbeLogging).splitPath =
      request.splitPath := rfl
  cases splits : request.splitPath with
  | ok path =>
    obtain ⟨first, answer, split, found⟩ := registry.exists_ask_of_split (probed.trans splits)
    rw [split, ok_bind, found]
    simp only [reduceCtorEq, and_false]
  | error fault =>
    have rejected := probed.trans splits
    by_cases nobody : entries = []
    · subst nobody
      simp [Pass.splitFor, Pass.ask]
    · rw [registry.pass_of_rejected nobody rejected]
      simp only [ne_eq, nobody, not_false_eq_true, true_and, Except.error.injEq]

/-- A policy lookup on a path that cannot be split fails if the path is split for some router, and
finds nothing otherwise. -/
theorem corsPolicy_of_rejected (fresh : request.rememberedPolicy? = none)
    (rejected : request.splitPath = .error error) :
    (introspector.corsPolicy store request).1 =
      if entries.any RegisteredRouter.usesParsedPath then .error (.stateFrom error) else .ok none := by
  have probed : (request.probe introspector.settings.suppressProbeLogging).splitPath =
      .error error := rejected
  rw [corsPolicy_outcome listed fresh, firstProbe, Pass.splitFor_of_rejected entries probed]
  split
  · rfl
  next unwanted =>
    rw [ok_bind, registry.ask_ignoring_of_rejected unwanted probed]
    rfl

end

/-- A pattern query over pattern routers fails exactly if there are any and the path of the request
cannot be split, and it says so; no path or capability is ever missed. A policy lookup fails on such
a path exactly if some router is for split paths. -/
theorem errors_of_patternRouters {context : RouterContext} {settings : IntrospectionSettings}
    {earlier later : Store} {introspector : Introspector} {served : List ServedRouter}
    (prepared : (Introspector.mk context settings {}).prepare earlier = (.ok introspector, later))
    (routers : introspector.registry.routers = served.map (·.router)) (store : Store)
    (request : Request) :
    (store.remembered? request = none →
      (∀ error, (introspector.boundRouter store request).1 = .error error ↔
        served ≠ [] ∧ RequestPath.parse request.path request.contextPath = .error error) ∧
      ∀ error, (introspector.boundRouter store request).1 = .error error →
        ∃ reason, error = .invalidPath request.path reason) ∧
    ∀ error, request.rememberedPolicy? = none →
      RequestPath.parse request.path request.contextPath = .error error →
      ((∃ failure, (introspector.corsPolicy store request).1 = .error failure) ↔
        ∃ candidate ∈ served, ∃ options, candidate.pattern.mode = .parsed options) ∧
      ((∀ candidate ∈ served, candidate.pattern.mode = .resolved) →
        (introspector.corsPolicy store request).1 = .ok none) := by
  obtain ⟨entries, listed, wellFormed, made⟩ := exists_entries_of_prepare prepared
  rw [routers] at made
  have registry : PatternRegistry entries served := .of_listed wellFormed fun _ => by rw [made]
  have nobody : entries ≠ [] ↔ served ≠ [] := by
    rw [ne_eq, ← List.map_eq_nil_iff (f := RegisteredRouter.router), made, List.map_eq_nil_iff]
  constructor
  · intro fresh
    have fails : ∀ error, (introspector.boundRouter store request).1 = .error error ↔
        served ≠ [] ∧ request.splitPath = .error error := by
      intro error
      rw [← nobody]
      exact boundRouter_eq_error_iff listed registry fresh
    refine ⟨fails, fun error failed => ?_⟩
    exact Request.splitPath_error ((fails error).mp failed).2
  · intro error fresh rejected
    rw [corsPolicy_of_rejected listed registry fresh rejected, ← registry.wants_iff]
    refine ⟨⟨?_, fun used => ⟨_, if_pos used⟩⟩, fun resolved => if_neg ?_⟩
    · rintro ⟨failure, failed⟩
      refine Decidable.byContradiction fun unused => ?_
      rw [if_neg unused] at failed
      cases failed
    · rw [registry.wants_iff]
      rintro ⟨candidate, member, options, mode⟩
      rw [resolved candidate member] at mode
      cases mode

section

private abbrev bundled : List ServedRouter :=
  [⟨_, ⟨handlerNameKind, Router.lastOrder, .resolved, [], []⟩, .plain⟩,
    ⟨_, ⟨pathPatternKind, Router.lastOrder, .parsed {}, [], []⟩, .plain⟩]

private abbrev strayRequest : Request :=
  Request.setAttribute { uri := ⟨none, none, "/docs/a", none⟩, contextPath := "/app" }
    AttributeName.parsedPath (.requestPath ⟨"", "/docs/a"⟩)

private abbrev strayError : RoutingError :=
  .invalidPath "/docs/a" "context path '/app' does not prefix the request path"

/-- Over the routers of the bundled kinds both questions about such a request fail. -/
theorem errors_of_patternRouters_bundled :
    ∃ introspector later,
      (Introspector.mk .standard {} {}).prepare {} = (.ok introspector, later) ∧
        (introspector.boundRouter later strayRequest).1 = .error strayError ∧
        ∃ failure, (introspector.corsPolicy later strayRequest).1 = .error failure := by
  have discovered : discover .standard {} =
      .ok (bundled.map (·.router), .usingDefaultRouters bundledRouterKinds) := by rfl
  have prepared : (Introspector.mk .standard {} {}).prepare {} = (.ok _, _) :=
    prepare_of_discover discovered
  have routers := register_routers 1024 (bundled.map (·.router))
    (Store.notify {} (.usingDefaultRouters bundledRouterKinds))
  have rejected : RequestPath.parse strayRequest.path strayRequest.contextPath =
      .error strayError := by rfl
  refine ⟨_, _, prepared, ?_⟩
  obtain ⟨queries, policies⟩ := errors_of_patternRouters prepared routers
    (register 1024 (bundled.map (·.router))
      (Store.notify {} (.usingDefaultRouters bundledRouterKinds))).2 strayRequest
  exact ⟨((queries rfl).1 strayError).mpr ⟨List.cons_ne_nil _ _, rejected⟩,
    (policies strayError rfl rejected).1.mpr ⟨_, List.mem_cons_of_mem _ List.mem_cons_self, _, rfl⟩⟩

end

end Introspector

end RouteProbe
