import RouteProbe.Proofs.Discovery.Factories
import RouteProbe.Proofs.Lookup.PolicyLookup

/-! # Handlers found by their names

A context without routers falls back on its handlers. Those whose names are paths are found by them:
the names are patterns, in the order in which the handlers are visible, and the first that matches
the normal form of the path decides (`Introspector.NamedAnswer`). Main statement: whose factory
makes a router for a context, and what introspection finds where it is the bundled ones.
-/

namespace RouteProbe

/-- Whether the name of a handler leads to it from a path: it is a path itself, and matches as a
pattern. -/
structure LeadsTo (name target : String) : Prop where
  opens : Text.opensWith '/' name = true
  isMatch : ∃ pattern, PathPattern.parse {} name = .ok pattern ∧ pattern.isMatch target = true

theorem leadsTo_iff_of_parse {name target : String} {pattern : PathPattern}
    (opens : Text.opensWith '/' name = true) (read : PathPattern.parse {} name = .ok pattern) :
    LeadsTo name target ↔ pattern.isMatch target = true := by
  constructor
  · rintro ⟨_, other, readToo, matched⟩
    rwa [Except.ok.inj (read.symm.trans readToo)]
  · intro matched
    exact ⟨opens, pattern, read, matched⟩

instance (name target : String) : Decidable (LeadsTo name target) :=
  if opens : Text.opensWith '/' name = true then
    match read : PathPattern.parse {} name with
    | .ok _ => decidable_of_iff _ (leadsTo_iff_of_parse opens read).symm
    | .error _ => isFalse fun leads => by
      obtain ⟨_, readToo, _⟩ := leads.isMatch
      cases read.symm.trans readToo
  else isFalse fun leads => opens leads.opens

/-- The first route that matches is the one to the first handler whose name leads to it. -/
theorem find?_namedPlan {handlers : Registrations Handler} {routes : List Route} {target : String}
    (read : (namedPlan handlers).routes.map (RoutePlan.build {}) = routes.map .ok) :
    (routes.find? fun route => route.pattern.isMatch target).map (·.handler) =
      (handlers.find? fun entry => LeadsTo entry.1 target).map (·.2) := by
  -- A handler whose name is no path has no route, and its name leads nowhere.
  induction handlers generalizing routes with
  | nil =>
    obtain rfl : routes = [] := List.map_eq_nil_iff.mp read.symm
    rfl
  | cons entry handlers ih =>
    obtain ⟨name, handler⟩ := entry
    by_cases opens : Text.opensWith '/' name = true
    · rw [routes_namedPlan_cons, if_pos opens] at read
      obtain ⟨route, later, rfl, built, rest⟩ := List.map_eq_cons_iff.mp read.symm
      obtain ⟨pattern, parsed, rfl⟩ := RoutePlan.build_eq_ok_iff.mp built.symm
      rw [fullPattern_of_opensWith opens] at parsed
      simp only [List.find?_cons, leadsTo_iff_of_parse opens parsed]
      cases pattern.isMatch target with
      | true => rfl
      | false => simpa using ih rest.symm
    · have astray : ¬ LeadsTo name target := fun leads => opens leads.opens
      rw [routes_namedPlan_cons, if_neg opens] at read
      rw [ih read, List.find?_cons_of_neg (by simpa using astray)]

theorem Route.handler_chain (route : Route) (interceptors : List Interceptor) :
    (route.chain interceptors).handler = route.handler := by
  unfold chain
  cases route.cors <;> rfl

/-! ### The two bundled routers -/

/-- What is left of a plan for handler names in the router that is built from it. -/
structure PatternRouter.IsNamed (named : PatternRouter) (handlers : Registrations Handler) : Prop where
  name : named.name = handlerNameKind
  mode : named.mode = .resolved
  read : (namedPlan handlers).routes.map (RoutePlan.build {}) = named.routes.map .ok

theorem PatternRouter.isNamed_of_build {named : PatternRouter} {handlers : Registrations Handler}
    (built : (namedPlan handlers).build = .ok named) : named.IsNamed handlers := by
  obtain ⟨routes, read, rfl⟩ := RouterPlan.build_eq_ok_iff.mp built
  exact ⟨rfl, rfl, mapM_eq_ok_iff.mp read⟩

/-- A registry of the two bundled routers. -/
structure IsFallback (handlers : Registrations Handler) (named : PatternRouter)
    (first second : RegisteredRouter) : Prop where
  isNamed : named.IsNamed handlers
  firstRouter : first.router = named.toRouter
  secondRouter : second.router = blankRouter.toRouter
  firstWellFormed : first.WellFormed
  secondWellFormed : second.WellFormed

namespace IsFallback

variable {α : Type} {handlers : Registrations Handler} {named : PatternRouter}
  {first second : RegisteredRouter} {probe : Request} {path : RequestPath}
  (fallback : IsFallback handlers named first second)

include fallback

theorem serves : named.Serves first.router := fallback.firstRouter ▸ .plain

theorem serves_blank : blankRouter.Serves second.router := fallback.secondRouter ▸ .plain

/-- The second router wants the path to be split. -/
theorem wanted : [first, second].any RegisteredRouter.usesParsedPath = true := by
  have declared : second.router.patternOptions?.isSome = true := by
    rw [fallback.secondRouter]
    rfl
  exact List.any_eq_true.mpr
    ⟨second, by simp, fallback.secondWellFormed.usesParsedPath declared⟩

theorem lookupOf_eq (path : RequestPath) :
    named.lookupOf path = .resolved (normalizeLookupPath path.within) := by
  rw [PatternRouter.lookupOf, fallback.isNamed.mode]

/-- The first route of the router is the one to the first handler whose name leads to it. -/
theorem map_handler_route? (target : String) :
    (named.route? target).map (·.handler) =
      (handlers.find? fun entry => LeadsTo entry.1 target).map (·.2) :=
  find?_namedPlan fallback.isNamed.read

/-- On a probe that is ready the first router answers if it has a route for the normal form, and
otherwise nobody does. -/
theorem ask_outcome (ready : probe.IsReady true path) (ignoring : Bool)
    (extract : Pass.Extractor α) :
    (Pass.ask ignoring extract [first, second] probe).outcome =
      match named.route? (normalizeLookupPath path.within) with
      | some route =>
        (extract first (route.chain named.interceptors) (first.leave probe)).1.map some
      | none => .ok none := by
  have wants (pattern : PatternRouter) : pattern.mode ≠ .resolved → true = true := fun _ => rfl
  obtain ⟨after, found, readyAfter⟩ := ready.findPath (wants named)
  rw [fallback.lookupOf_eq] at found
  have answered := RegisteredRouter.answer_of_findPath fallback.serves found
  have left := RegisteredRouter.leave_of_findPath fallback.serves found
  cases chosen : named.route? (normalizeLookupPath path.within) with
  | some route =>
    rw [LookupPath.text, chosen, Option.map_some] at answered
    have passage : Passage ignoring probe [] probe := .nil probe
    exact Pass.ask_outcome_of_chain passage answered
  | none =>
    rw [LookupPath.text, chosen, Option.map_none] at answered
    obtain ⟨last, foundToo, _⟩ := readyAfter.findPath (wants blankRouter)
    have answeredToo := RegisteredRouter.answer_of_findPath fallback.serves_blank foundToo
    rw [← left] at answeredToo
    have passage : Passage ignoring probe [first, second] (second.leave (first.leave probe)) :=
      .cons (.inl answered) (.cons (.inl answeredToo) (.nil _))
    exact Pass.ask_outcome_of_passage passage

end IsFallback

section Contexts

variable {context : RouterContext} {settings : IntrospectionSettings} {earlier later : Store}
  {introspector : Introspector}

section

variable (bare : context.routers = []) (unset : settings.defaultRouters = none)
  (named : context.factory? handlerNameKind = some .handlerName)
  (blank : context.factory? pathPatternKind = some .pathPattern)

include unset in
theorem IntrospectionSettings.routerKinds_of_unset :
    settings.routerKinds = [handlerNameKind, pathPatternKind] := by
  rw [routerKinds, unset]
  rfl

include named in
theorem RouterContext.createRouter_named_iff {router : Router} :
    context.createRouter handlerNameKind = .ok router ↔
      ∃ named, (namedPlan context.handlers).build = .ok named ∧ named.toRouter = router := by
  rw [createRouter_of_factory named, mapError_eq_ok_iff]
  exact handlerNameRouter_eq_ok_iff

include blank in
theorem RouterContext.createRouter_blank :
    context.createRouter pathPatternKind = .ok blankRouter.toRouter := by
  rw [createRouter_of_factory blank, RouterFactory.make, pathPatternRouter_eq]
  rfl

include bare unset named blank

namespace Introspector

theorem exists_prepare_iff_named :
    (∃ introspector later,
        (Introspector.mk context settings {}).prepare earlier = (.ok introspector, later)) ↔
      ∃ named, (namedPlan context.handlers).build = .ok named := by
  rw [exists_prepare_iff, or_iff_right (not_not_intro bare),
    IntrospectionSettings.routerKinds_of_unset unset]
  simp only [List.forall_mem_cons, RouterContext.createRouter_blank blank,
    RouterContext.createRouter_named_iff named]
  constructor
  · rintro ⟨⟨_, pattern, built, _⟩, _⟩
    exact ⟨pattern, built⟩
  · rintro ⟨pattern, built⟩
    exact ⟨⟨_, pattern, built, rfl⟩, ⟨_, rfl⟩, nofun⟩

theorem exists_prepare_error_iff :
    (∃ error later,
        (Introspector.mk context settings {}).prepare earlier = (.error error, later)) ↔
      ∃ name ∈ context.handlers.map (·.1), Text.opensWith '/' name = true ∧
        ¬ PathPattern.IsPattern {} name := by
  have fails : (∃ error later,
      (Introspector.mk context settings {}).prepare earlier = (.error error, later)) ↔
        ¬ ∃ introspector later,
          (Introspector.mk context settings {}).prepare earlier = (.ok introspector, later) := by
    rcases (Introspector.mk context settings {}).prepare earlier with ⟨_ | _, _⟩ <;> simp
  rw [fails, exists_prepare_iff_named bare unset named blank, exists_namedPlan_build_iff]
  push Not
  rfl

theorem exists_fallback_of_prepare
    (prepared : (Introspector.mk context settings {}).prepare earlier = (.ok introspector, later)) :
    ∃ named first second, introspector.registry.entries? = some [first, second] ∧
      IsFallback context.handlers named first second ∧
      context.createRouter handlerNameKind = .ok named.toRouter := by
  obtain ⟨entries, listed, wellFormed, routers⟩ := exists_entries_of_prepare prepared
  have created := map_createRouter_of_prepare prepared bare
  rw [IntrospectionSettings.routerKinds_of_unset unset, ← routers, List.map_cons,
    List.map_singleton, RouterContext.createRouter_blank blank, List.map_map] at created
  obtain ⟨first, _, rfl, made, rest⟩ := List.map_eq_cons_iff.mp created.symm
  obtain ⟨second, _, rfl, madeToo, nothing⟩ := List.map_eq_cons_iff.mp rest
  obtain rfl := List.map_eq_nil_iff.mp nothing
  obtain ⟨pattern, built, same⟩ := (RouterContext.createRouter_named_iff named).mp made.symm
  refine ⟨pattern, first, second, listed, ⟨PatternRouter.isNamed_of_build built, same.symm,
    Except.ok.inj madeToo, wellFormed first (by simp), wellFormed second (by simp)⟩, ?_⟩
  rw [same]
  exact made.symm

end Introspector

end

namespace Introspector

/-- What introspection finds for a request by the names of handlers: the router made for the
purpose, if one of the visible names leads to its handler. The first of these decides. -/
inductive NamedAnswer (introspector : Introspector) (histories : List (List (String × Handler)))
    (store : Store) (request : Request) (target : String) : Prop
  | handled {before after : List String} {name : String} {bound : BoundRouter} {chain : Chain}
      (names : Registrations.visibleNames histories = before ++ name :: after)
      (passed : ∀ other ∈ before, ¬ LeadsTo other target) (leads : LeadsTo name target)
      (visible : Registrations.IsVisible histories name chain.handler)
      (found : (introspector.boundRouter store request).1 = .ok (some bound))
      (made : introspector.context.createRouter handlerNameKind = .ok bound.router)
      (named : bound.router.name = handlerNameKind) (lookup : bound.lookup = .resolved target)
      (resolved : ∀ ignoring,
        (introspector.resolve store ignoring (Pass.reading fun _ chain _ => .ok chain) request).1 =
          .ok (some chain)) : NamedAnswer introspector histories store request target
  | unhandled (astray : ∀ name ∈ Registrations.visibleNames histories, ¬ LeadsTo name target)
      (found : (introspector.boundRouter store request).1 = .ok none) :
      NamedAnswer introspector histories store request target

/-- Over the two bundled routers, the first handler whose name leads to it answers. -/
theorem namedAnswer_of_fallback {histories : List (List (String × Handler))} {named : PatternRouter}
    {first second : RegisteredRouter} {store : Store} {request : Request} {path : RequestPath}
    (listed : introspector.registry.entries? = some [first, second])
    (fallback : IsFallback introspector.context.handlers named first second)
    (made : introspector.context.createRouter handlerNameKind = .ok named.toRouter)
    (visible : introspector.context.handlers =
      Registrations.visible (histories.map Registrations.ofHistory))
    (fresh : store.remembered? request = none) (splits : request.splitPath = .ok path) :
    introspector.NamedAnswer histories store request (normalizeLookupPath path.within) := by
  obtain ⟨probe, begins, underway⟩ := Pass.exists_splitFor [first, second]
    introspector.settings.suppressProbeLogging splits
  have ready := underway.ready
  rw [fallback.wanted] at ready
  have resolves {α : Type} (ignoring : Bool) (extract : Pass.Extractor α) :
      (introspector.resolve store ignoring extract request).1 =
        (Pass.ask ignoring extract [first, second] probe).outcome := by
    simp only [resolve, pass, Pass.run_outcome listed, begins, ok_bind]
  have asked : (introspector.boundRouter store request).1 =
      (Pass.ask false (Pass.reading fun entry _ probe => entry.bind probe) [first, second]
        probe).outcome := by
    simp only [boundRouter, fresh, resolves]
  have names := Registrations.map_fst_visible histories
  rw [← visible] at names
  have chosen := fallback.map_handler_route? (normalizeLookupPath path.within)
  cases decided : named.route? (normalizeLookupPath path.within) with
  | none =>
    rw [fallback.ask_outcome ready, decided] at asked
    rw [decided, Option.map_none, eq_comm, Option.map_eq_none_iff, List.find?_eq_none] at chosen
    refine .unhandled ?_ asked
    rw [← names]
    exact List.forall_mem_map.mpr fun entry member => by simpa using chosen entry member
  | some route =>
    rw [decided, Option.map_some, eq_comm, Option.map_eq_some_iff] at chosen
    obtain ⟨⟨name, handler⟩, found, same⟩ := chosen
    obtain ⟨leads, before, after, divided, passed⟩ := List.find?_eq_some_iff_append.mp found
    obtain ⟨bound, binding, router, lookup⟩ :=
      RegisteredRouter.bind_of_isReady fallback.serves fallback.firstWellFormed ready fun _ => rfl
    simp only [fallback.ask_outcome ready, decided, Pass.reading_fst, binding] at asked
    have namesDivided : Registrations.visibleNames histories =
        before.map (·.1) ++ name :: after.map (·.1) := by
      rw [← names, divided, List.map_append, List.map_cons]
    have shown : Registrations.IsVisible histories name (route.chain named.interceptors).handler := by
      rw [route.handler_chain, ← same, ← Registrations.mem_visible_iff, ← visible, divided]
      exact List.mem_append_right _ List.mem_cons_self
    rw [← fallback.firstRouter, ← router] at made
    refine .handled namesDivided ?_ (of_decide_eq_true leads) shown asked made ?_ ?_ ?_
    · exact List.forall_mem_map.mpr fun entry member => by simpa using passed entry member
    · rw [router, fallback.firstRouter]
      exact fallback.isNamed.name
    · rw [lookup, fallback.lookupOf_eq]
    · intro ignoring
      rw [resolves, fallback.ask_outcome ready, decided]
      rfl

/-- However a context comes about, a router is made by the factory that the nearest context to have
one for the kind has there last. That factory is given the context that is asked, with all that its
history and those of its parents have left; a factory that is missing or fails is a wrong
configuration. Where the context has no routers, and the bundled factories of the two default kinds
are the nearest, a registry can be set up unless the name of a visible handler is a path and no
pattern. A request without a remembered answer is then found by the first visible name that leads
from the normal form of its path to a handler. -/
theorem namedAnswer_of_isBuiltBy {histories : List LevelHistory} {context : RouterContext}
    (built : context.IsBuiltBy histories) :
    (∀ kind factory, Registrations.IsVisible (histories.map (·.factories)) kind factory →
      context.createRouter kind =
        (factory.make context).mapError (RouterContext.factoryFailed kind)) ∧
    (∀ kind, (∀ factory, ¬ Registrations.IsVisible (histories.map (·.factories)) kind factory) →
      context.createRouter kind = .error (RouterContext.factoryMissing kind)) ∧
    (∀ kind error, context.createRouter kind = .error error →
      ∃ message, error = .configuration message) ∧
    context.toContextLevels.IsOf histories ∧
    (∀ own next inherited, histories = own :: next :: inherited →
      ∃ parent, context.parent? = some parent ∧ parent.custom = context.custom ∧
        parent.IsBuiltBy (next :: inherited)) ∧
    (context.routers = [] →
      Registrations.IsVisible (histories.map (·.factories)) handlerNameKind .handlerName →
      Registrations.IsVisible (histories.map (·.factories)) pathPatternKind .pathPattern →
      ∀ settings : IntrospectionSettings, settings.defaultRouters = none → ∀ earlier,
        ((∃ error later, (Introspector.mk context settings {}).prepare earlier = (.error error, later)) ↔
          ∃ name ∈ Registrations.visibleNames (histories.map (·.handlers)),
            Text.opensWith '/' name = true ∧ ¬ PathPattern.IsPattern {} name) ∧
        ∀ introspector later,
          (Introspector.mk context settings {}).prepare earlier = (.ok introspector, later) →
            ∀ store request path, Store.remembered? store request = none →
              request.splitPath = .ok path →
                introspector.NamedAnswer (histories.map (·.handlers)) store request
                  (normalizeLookupPath path.within)) := by
  refine ⟨fun kind factory nearest => ?_, fun kind missing => ?_,
    fun _ _ => RouterContext.createRouter_error, built.isOf_levels, fun own next inherited same => ?_,
    fun bare named blank settings unset earlier => ⟨?_, ?_⟩⟩
  · exact RouterContext.createRouter_of_factory (built.factory?_eq_some_iff.mpr nearest)
  · exact RouterContext.createRouter_of_missing
      (Option.eq_none_iff_forall_ne_some.mpr fun factory found =>
        missing factory (built.factory?_eq_some_iff.mp found))
  · obtain rfl := same
    exact built.exists_parent
  · rw [exists_prepare_error_iff bare unset (built.factory?_eq_some_iff.mpr named)
      (built.factory?_eq_some_iff.mpr blank), ← Registrations.map_fst_visible, ← built.handlers_eq]
  · intro introspector later prepared store request path fresh splits
    obtain ⟨named, first, second, listed, fallback, made⟩ :=
      exists_fallback_of_prepare bare unset (built.factory?_eq_some_iff.mpr named)
        (built.factory?_eq_some_iff.mpr blank) prepared
    obtain ⟨_, _, _, rfl, _⟩ := prepare_eq_ok prepared
    exact namedAnswer_of_fallback listed fallback made built.handlers_eq fresh splits

section

private abbrev stampRouter : Router := .always "stamp" 0 ⟨.operation "stamp", []⟩

/-- One factory has another make the router, for the context that it is given. -/
private abbrev stampFactories : CustomFactories
  | 0, levels => RouterContext.createRouter ⟨levels, fun _ _ => .ok stampRouter⟩ "stamp"
  | _, _ => .ok stampRouter

private abbrev officeContext : RouterContext :=
  (((RouterContext.standard stampFactories).addHandler "/legacy/**" (.operation "legacy")).addHandler
    "report" (.operation "report")).addFactory "stamped" (.custom 0)

/-- A context that hides a handler of its parent, behind one that leads elsewhere, and has the
factory that one of its parent asks for. -/
private abbrev deskContext : RouterContext :=
  ((officeContext.below.addHandler "/docs/*" (.operation "docs")).addHandler "/legacy/**"
    (.operation "desk")).addFactory "stamp" (.custom 1)

private abbrev officeHistory : LevelHistory where
  handlers := [("/legacy/**", .operation "legacy"), ("report", .operation "report")]
  factories := [(handlerNameKind, .handlerName), (pathPatternKind, .pathPattern),
    ("stamped", .custom 0)]

private abbrev deskHistories : List LevelHistory :=
  [{ handlers := [("/docs/*", .operation "docs"), ("/legacy/**", .operation "desk")]
     factories := [("stamp", .custom 1)] }, officeHistory]

private theorem officeContext_isBuiltBy : officeContext.IsBuiltBy [officeHistory] :=
  .factory _ _ (.handler _ _ (.handler _ _ (.standard _)))

private theorem deskContext_isBuiltBy : deskContext.IsBuiltBy deskHistories :=
  .factory _ _ (.handler _ _ (.handler _ _ (.child officeContext_isBuiltBy)))

private abbrev legacyRequest : Request := { uri := ⟨none, none, "/legacy/report", none⟩ }

/-- The factory of the parent makes a router for the desk, where it finds what it asks for, and
fails for the parent itself. -/
theorem namedAnswer_of_isBuiltBy_desk :
    deskContext.createRouter "stamped" = .ok stampRouter ∧
    (∃ message, officeContext.createRouter "stamped" = .error (.configuration message)) ∧
    ∃ introspector later bound chain,
      (Introspector.mk deskContext {} {}).prepare {} = (.ok introspector, later) ∧
        (introspector.boundRouter later legacyRequest).1 = .ok (some bound) ∧
        bound.router.name = "handler-name" ∧ bound.lookup = .resolved "/legacy/report" ∧
        (introspector.resolve later false (Pass.reading fun _ chain _ => .ok chain) legacyRequest).1 =
          .ok (some chain) ∧ chain.handler = .operation "desk" := by
  obtain ⟨created, _, _, _, _, answers⟩ := namedAnswer_of_isBuiltBy deskContext_isBuiltBy
  obtain ⟨createdAbove, _⟩ := namedAnswer_of_isBuiltBy officeContext_isBuiltBy
  have stamped : Registrations.IsVisible [officeHistory.factories] "stamped" (.custom 0) :=
    .own ⟨[(handlerNameKind, .handlerName), (pathPatternKind, .pathPattern)], [], rfl, by simp⟩
  have named : Registrations.IsVisible (deskHistories.map (·.factories)) handlerNameKind
      .handlerName := .inherited (by decide) (.own ⟨[], _, rfl, by decide⟩)
  have blank : Registrations.IsVisible (deskHistories.map (·.factories)) pathPatternKind
      .pathPattern :=
    .inherited (by decide) (.own ⟨[(handlerNameKind, .handlerName)], _, rfl, by decide⟩)
  refine ⟨(created "stamped" (.custom 0) (.inherited (by decide) stamped)).trans rfl,
    ⟨_, (createdAbove "stamped" (.custom 0) stamped).trans rfl⟩, ?_⟩
  obtain ⟨fails, answers⟩ := answers rfl named blank {} rfl {}
  have names : Registrations.visibleNames (deskHistories.map (·.handlers)) =
      ["/docs/*", "/legacy/**", "report"] := by decide +kernel
  have leading : ∀ name ∈ ["/docs/*", "/legacy/**", "report"],
      LeadsTo name "/legacy/report" ↔ name = "/legacy/**" := by decide +kernel
  have target : normalizeLookupPath "/legacy/report" = "/legacy/report" := by decide +kernel
  rcases prepared : (Introspector.mk deskContext {} {}).prepare {} with ⟨error | introspector, later⟩
  · obtain ⟨name, listed, opens, refused⟩ := fails.mp ⟨error, later, prepared⟩
    rw [names] at listed
    simp only [List.mem_cons, List.not_mem_nil, or_false] at listed
    rcases listed with rfl | rfl | rfl
    · exact absurd (PathPattern.exists_parse_eq_ok_iff.mp ⟨_, rfl⟩) refused
    · exact absurd (PathPattern.exists_parse_eq_ok_iff.mp ⟨_, rfl⟩) refused
    · cases opens
  · have answer := answers introspector later prepared later legacyRequest ⟨"", "/legacy/report"⟩ rfl rfl
    change introspector.NamedAnswer _ later legacyRequest
      (normalizeLookupPath "/legacy/report") at answer
    rw [target] at answer
    cases answer with
    | unhandled astray =>
      rw [names] at astray
      exact absurd ((leading "/legacy/**" (by simp)).mpr rfl) (astray "/legacy/**" (by simp))
    | @handled before after name bound chain divided _ leads visible found _ routed lookup resolved =>
      have listed : name ∈ ["/docs/*", "/legacy/**", "report"] := by
        rw [← names, divided]
        exact List.mem_append_right _ List.mem_cons_self
      obtain rfl := (leading name listed).mp leads
      refine ⟨introspector, later, bound, chain, rfl, found, routed, lookup, resolved false, ?_⟩
      have shown : Registrations.visible ((deskHistories.map (·.handlers)).map
          Registrations.ofHistory) = [("/docs/*", .operation "docs"),
            ("/legacy/**", .operation "desk"), ("report", .operation "report")] := by rfl
      rw [← Registrations.mem_visible_iff, shown] at visible
      simpa using visible

end

end Introspector

end Contexts

end RouteProbe
