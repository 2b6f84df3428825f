import RouteProbe.Proofs.Lookup.Binding

/-! # Introspection agrees with dispatch

Dispatch sends a request to the least pattern router, by order and then by place, that has a route
for it. Introspection comes to the same router: what a router for normal forms leaves on the probe
concerns no other pattern router, so that each of them finds its own path, and is bound to it.
-/

namespace RouteProbe

/-- Whether some route of the router matches a request path, taken in the form that the router
wants. -/
def PatternRouter.Takes (router : PatternRouter) (path : RequestPath) : Prop :=
  ∃ route ∈ router.routes, route.pattern.isMatch (router.lookupOf path).text = true

/-- A pattern router together with a router that answers as it does. -/
structure ServedRouter where
  router : Router
  pattern : PatternRouter
  serves : pattern.Serves router

/-- The router that dispatch sends a request to, with its place: it takes the path, and whatever
other router does so has a later order, or the same order and a later place. -/
structure IsDispatched (served : List ServedRouter) (path : RequestPath) (place : Nat)
    (chosen : ServedRouter) : Prop where
  found : served[place]? = some chosen
  takes : chosen.pattern.Takes path
  least : ∀ (elsewhere : Nat) (other : ServedRouter), served[elsewhere]? = some other →
    other.pattern.Takes path → chosen.pattern.order < other.pattern.order ∨
      chosen.pattern.order = other.pattern.order ∧ place ≤ elsewhere

theorem PatternRouter.route?_isSome_iff {router : PatternRouter} {path : RequestPath} :
    (router.route? (router.lookupOf path).text).isSome = true ↔ router.Takes path := by
  rw [route?, List.find?_isSome, Takes]

section

variable {wanted : Bool} {path : RequestPath} {probe : Request} {entry : RegisteredRouter}
  {pattern : PatternRouter}

theorem RegisteredRouter.bind_of_isReady (serves : pattern.Serves entry.router)
    (wellFormed : entry.WellFormed) (ready : probe.IsReady wanted path)
    (wants : pattern.mode ≠ .resolved → wanted = true) :
    ∃ bound, entry.bind (entry.leave probe) = .ok bound ∧ bound.router = entry.router ∧
      bound.lookup = pattern.lookupOf path := by
  obtain ⟨after, found, readyAfter⟩ := ready.findPath wants
  rw [leave_of_findPath serves found]
  cases mode : pattern.mode with
  | parsed options =>
    have parsed := readyAfter.parsed (wants (by simp [mode]))
    obtain ⟨cache, _, binding⟩ := bind_parsed serves wellFormed mode parsed
    refine ⟨_, binding, router_of_bind wellFormed binding, ?_⟩
    simp only [BoundRouter.lookup, PatternRouter.lookupOf, mode]
  | resolved =>
    obtain ⟨_, _, _, rfl⟩ := (PatternRouter.findPath_resolved_iff mode).mp found
    have left := probe.lookupPath?_setAttribute_lookupPath (pattern.lookupOf path).text
    have binding := bind_resolved serves wellFormed mode left
    refine ⟨_, binding, router_of_bind wellFormed binding, ?_⟩
    simp only [BoundRouter.lookup, PatternRouter.lookupOf, mode, LookupPath.text]

/-- A pattern router leaves a probe ready. -/
theorem RegisteredRouter.leave_isReady (serves : pattern.Serves entry.router)
    (ready : probe.IsReady wanted path) (wants : pattern.mode ≠ .resolved → wanted = true) :
    (entry.leave probe).IsReady wanted path := by
  obtain ⟨after, found, readyAfter⟩ := ready.findPath wants
  rw [leave_of_findPath serves found]
  exact readyAfter

/-- A pattern router never fails on a probe that is ready, and whether some route matches is what
decides on its answer. -/
theorem RegisteredRouter.answer_of_isReady (serves : pattern.Serves entry.router)
    (ready : probe.IsReady wanted path) (wants : pattern.mode ≠ .resolved → wanted = true) :
    (∃ chain, entry.answer probe = .ok (some chain)) ∧ pattern.Takes path ∨
      entry.answer probe = .ok none ∧ ¬ pattern.Takes path := by
  obtain ⟨after, found, _⟩ := ready.findPath wants
  rw [answer_of_findPath serves found, ← PatternRouter.route?_isSome_iff]
  cases pattern.route? (pattern.lookupOf path).text with
  | none => exact .inr ⟨rfl, Bool.false_ne_true⟩
  | some route => exact .inl ⟨⟨_, rfl⟩, rfl⟩

/-- The path is split before the first router is asked, if any of them wants it. -/
theorem Pass.splitFor_isReady (entries : List RegisteredRouter) (splits : probe.splitPath = .ok path) :
    ∃ first, splitFor entries probe = .ok first ∧
      first.IsReady (entries.any RegisteredRouter.usesParsedPath) path := by
  unfold splitFor
  cases wanted : entries.any RegisteredRouter.usesParsedPath with
  | false => exact ⟨probe, rfl, splits, fun impossible => absurd impossible Bool.false_ne_true⟩
  | true =>
    refine ⟨probe.setAttribute AttributeName.parsedPath (.requestPath path), ?_, splits, ?_⟩
    · simp only [if_true, Request.cacheParsedPath, splits]
      rfl
    · intro _
      exact probe.parsedPath?_setAttribute_parsedPath path

end

/-- A registry of pattern routers: each entry is well-formed, and it has exactly the routers that
are served. -/
structure PatternRegistry (entries : List RegisteredRouter) (served : List ServedRouter) : Prop where
  wellFormed : ∀ entry ∈ entries, entry.WellFormed
  of_entry : ∀ entry ∈ entries, ∃ candidate ∈ served, candidate.router = entry.router
  of_served : ∀ candidate ∈ served, ∃ entry ∈ entries, entry.router = candidate.router

namespace PatternRegistry

variable {entries : List RegisteredRouter} {served : List ServedRouter} {path : RequestPath}
  {entry : RegisteredRouter} {pattern : PatternRouter} {first probe : Request}

/-- Well-formed entries that have exactly the routers that are served are a registry of them. -/
theorem of_listed (wellFormed : ∀ entry ∈ entries, entry.WellFormed)
    (listed : ∀ router, router ∈ entries.map (·.router) ↔ router ∈ served.map (·.router)) :
    PatternRegistry entries served where
  wellFormed := wellFormed
  of_entry := by
    intro entry member
    exact List.mem_map.mp ((listed entry.router).mp (List.mem_map_of_mem member))
  of_served := by
    intro candidate member
    exact List.mem_map.mp ((listed candidate.router).mpr (List.mem_map_of_mem member))

theorem exists_serves (registry : PatternRegistry entries served) (member : entry ∈ entries) :
    ∃ pattern : PatternRouter, pattern.Serves entry.router := by
  obtain ⟨candidate, _, same⟩ := registry.of_entry entry member
  exact ⟨candidate.pattern, same ▸ candidate.serves⟩

/-- Where a router for split paths is in the registry, the path is split. -/
theorem wants (registry : PatternRegistry entries served) (member : entry ∈ entries)
    (serves : pattern.Serves entry.router) (split : pattern.mode ≠ .resolved) :
    entries.any RegisteredRouter.usesParsedPath = true := by
  have declared : entry.router.patternOptions?.isSome = true := by
    rw [serves.patternOptions?_eq]
    exact PathMode.isSome_declared? split
  exact List.any_eq_true.mpr ⟨entry, member, (registry.wellFormed entry member).usesParsedPath declared⟩

/-- As long as no router decides, the probe stays ready, and no router asked takes the path. -/
theorem passed (registry : PatternRegistry entries served) {passing : List RegisteredRouter}
    (included : ∀ entry ∈ passing, entry ∈ entries)
    (ready : first.IsReady (entries.any RegisteredRouter.usesParsedPath) path)
    (passage : Passage false first passing probe) :
    probe.IsReady (entries.any RegisteredRouter.usesParsedPath) path ∧
      ∀ entry ∈ passing, ∀ pattern : PatternRouter, pattern.Serves entry.router →
        ¬ pattern.Takes path := by
  have kept : ∀ entry ∈ passing, ∀ probe : Request,
      probe.IsReady (entries.any RegisteredRouter.usesParsedPath) path →
        (entry.leave probe).IsReady (entries.any RegisteredRouter.usesParsedPath) path := by
    intro entry member probe holds
    obtain ⟨pattern, serves⟩ := registry.exists_serves (included entry member)
    exact RegisteredRouter.leave_isReady serves holds (registry.wants (included entry member) serves)
  obtain ⟨last, asked⟩ := passage.invariant kept ready
  refine ⟨last, ?_⟩
  intro entry member pattern serves takes
  obtain ⟨probe, holds, undecided⟩ := asked entry member
  have wants := registry.wants (included entry member) serves
  rcases RegisteredRouter.answer_of_isReady serves holds wants with
    ⟨⟨chain, answered⟩, _⟩ | ⟨_, declines⟩
  · rcases undecided with nothing | ⟨ignoring, _⟩
    · rw [answered] at nothing
      cases nothing
    · contradiction
  · exact declines takes

/-- Where a pattern router decides, it answers with a chain and is bound to its own path, and
whatever pattern router it answers as takes the path. -/
theorem decision (registry : PatternRegistry entries served) (member : entry ∈ entries)
    (ready : probe.IsReady (entries.any RegisteredRouter.usesParsedPath) path)
    (decides : ¬ entry.PassesOver false probe) :
    ∃ chain bound, entry.answer probe = .ok (some chain) ∧
      entry.bind (entry.leave probe) = .ok bound ∧ bound.router = entry.router ∧
        ∀ pattern : PatternRouter, pattern.Serves entry.router →
          pattern.Takes path ∧ bound.lookup = pattern.lookupOf path := by
  have decided : ∀ pattern : PatternRouter, pattern.Serves entry.router →
      (∃ chain, entry.answer probe = .ok (some chain)) ∧ pattern.Takes path := by
    intro pattern serves
    have wants := registry.wants member serves
    rcases RegisteredRouter.answer_of_isReady serves ready wants with found | ⟨nothing, _⟩
    · exact found
    · exact absurd (.inl nothing) decides
  have binds : ∀ pattern : PatternRouter, pattern.Serves entry.router →
      ∃ bound, entry.bind (entry.leave probe) = .ok bound ∧ bound.router = entry.router ∧
        bound.lookup = pattern.lookupOf path := by
    intro pattern serves
    have wants := registry.wants member serves
    exact RegisteredRouter.bind_of_isReady serves (registry.wellFormed entry member) ready wants
  obtain ⟨candidate, serves⟩ := registry.exists_serves member
  obtain ⟨⟨chain, answered⟩, _⟩ := decided candidate serves
  obtain ⟨bound, binding, router, _⟩ := binds candidate serves
  refine ⟨chain, bound, answered, binding, router, ?_⟩
  intro pattern serves
  obtain ⟨other, sameBinding, _, lookup⟩ := binds pattern serves
  obtain rfl : bound = other := Except.ok.inj (binding.symm.trans sameBinding)
  exact ⟨(decided pattern serves).2, lookup⟩

/-- A pass over pattern routers finds nothing if none of them takes the path; otherwise it binds the
first that does, to the path it wants. -/
theorem ask_outcome (registry : PatternRegistry entries served)
    (ready : first.IsReady (entries.any RegisteredRouter.usesParsedPath) path) :
    (Pass.ask false (Pass.reading fun entry _ probe => entry.bind probe) entries first).outcome =
        .ok none ∧
        (∀ candidate ∈ served, ¬ candidate.pattern.Takes path) ∨
      ∃ before entry after bound, entries = before ++ entry :: after ∧
        (∀ other ∈ before, ∀ pattern : PatternRouter, pattern.Serves other.router →
          ¬ pattern.Takes path) ∧
        (∀ pattern : PatternRouter, pattern.Serves entry.router →
          pattern.Takes path ∧ bound.lookup = pattern.lookupOf path) ∧
        bound.router = entry.router ∧
        (Pass.ask false (Pass.reading fun entry _ probe => entry.bind probe) entries first).outcome =
          .ok (some bound) := by
  rcases passage_or_decision false entries first with
    ⟨last, passage⟩ | ⟨before, entry, after, last, divided, passage, decides⟩
  · refine .inl ⟨Pass.ask_outcome_of_passage passage, ?_⟩
    intro candidate member
    obtain ⟨entry, listed, same⟩ := registry.of_served candidate member
    have serves := candidate.serves
    rw [← same] at serves
    exact (registry.passed (fun _ => id) ready passage).2 entry listed candidate.pattern serves
  · have included : ∀ other ∈ before, other ∈ entries := by
      intro other member
      rw [divided]
      exact List.mem_append_left _ member
    have member : entry ∈ entries := by
      rw [divided]
      exact List.mem_append_right _ List.mem_cons_self
    obtain ⟨readyLast, declined⟩ := registry.passed included ready passage
    obtain ⟨chain, bound, answered, binding, router, takes⟩ :=
      registry.decision member readyLast decides
    refine .inr ⟨before, entry, after, bound, divided, declined, takes, router, ?_⟩
    rw [divided, Pass.ask_outcome_of_chain passage answered, Pass.reading_fst, binding]
    rfl

end PatternRegistry

theorem patternRegistry_of_prepare {context : RouterContext} {settings : IntrospectionSettings}
    {earlier later : Store} {introspector : Introspector} {served : List ServedRouter}
    (visible : context.routers.map (·.2) = served.map (·.router)) (registered : served ≠ [])
    (prepared : (Introspector.mk context settings {}).prepare earlier = (.ok introspector, later)) :
    ∃ entries, introspector.registry.entries? = some entries ∧
      entries.map (·.router) = (served.map (·.router)).mergeSort Router.isBefore ∧
        PatternRegistry entries served := by
  obtain ⟨routers, notice, discovered, rfl, _⟩ := Introspector.prepare_eq_ok prepared
  have nonempty : context.routers ≠ [] := by
    intro empty
    rw [empty] at visible
    exact registered (List.map_eq_nil_iff.mp visible.symm)
  obtain ⟨_, inOrder⟩ := discover_of_routers nonempty settings
  obtain ⟨rfl, _⟩ := Prod.mk.inj (Except.ok.inj (discovered.symm.trans inOrder))
  refine ⟨_, rfl, ?_⟩
  generalize made : (register settings.patternCacheLimit _ (earlier.notify notice)).1 = entries
  have sorted : entries.map (·.router) = (served.map (·.router)).mergeSort Router.isBefore := by
    rw [← made, register_routers, visible]
  have listed : ∀ router, router ∈ entries.map (·.router) ↔ router ∈ served.map (·.router) := by
    intro router
    rw [sorted, List.mem_mergeSort]
  exact ⟨sorted, .of_listed (made ▸ register_wellFormed _ _ _) listed⟩

/-- The first router of the sorted ones that takes a path is the one that dispatch sends it to. -/
theorem exists_isDispatched {served : List ServedRouter} {path : RequestPath}
    {before after : List Router} {router : Router}
    (sorted : (served.map (·.router)).mergeSort Router.isBefore = before ++ router :: after)
    (declined : ∀ other ∈ before, ∀ pattern : PatternRouter, pattern.Serves other →
      ¬ pattern.Takes path)
    (takes : ∀ pattern : PatternRouter, pattern.Serves router → pattern.Takes path) :
    ∃ place chosen, IsDispatched served path place chosen ∧ chosen.router = router := by
  have member : router ∈ served.map (·.router) := by
    have inSorted : router ∈ before ++ router :: after := by simp
    rwa [← sorted, List.mem_mergeSort] at inSorted
  obtain ⟨candidate, _, rfl⟩ := List.mem_map.mp member
  have skipped : ∀ other ∈ before,
      ¬ ∃ pattern : PatternRouter, pattern.Serves other ∧ pattern.Takes path := by
    rintro other passed ⟨pattern, serves, taken⟩
    exact declined other passed pattern serves taken
  obtain ⟨place, found, least⟩ := first_of_mergeSort sorted _
    ⟨candidate.pattern, candidate.serves, takes _ candidate.serves⟩ skipped
  rw [List.getElem?_map] at found
  obtain ⟨chosen, atPlace, same⟩ := Option.map_eq_some_iff.mp found
  have serves := chosen.serves
  rw [same] at serves
  refine ⟨place, chosen, ⟨atPlace, takes _ serves, ?_⟩, same⟩
  intro elsewhere other atElsewhere otherTakes
  have listed : (served.map (·.router))[elsewhere]? = some other.router := by
    rw [List.getElem?_map, atElsewhere, Option.map_some]
  have rank := least other.router elsewhere listed ⟨other.pattern, other.serves, otherTakes⟩
  rwa [serves.order_eq, other.serves.order_eq] at rank

/-- If all routers of a context are pattern routers, introspection finds nothing for a request
exactly if none of them has a route for it. Otherwise it finds the least of those that have, by
order and then by place, bound to the path in the form which that router wants. -/
theorem Introspector.boundRouter_eq_least {context : RouterContext} {settings : IntrospectionSettings}
    {earlier later store : Store} {introspector : Introspector} {request : Request}
    {path : RequestPath} {served : List ServedRouter}
    (visible : context.routers.map (·.2) = served.map (·.router)) (registered : served ≠ [])
    (prepared : (Introspector.mk context settings {}).prepare earlier = (.ok introspector, later))
    (fresh : store.remembered? request = none) (splits : request.splitPath = .ok path) :
    ∃ answer, (introspector.boundRouter store request).1 = .ok answer ∧
      (answer = none ↔ ∀ candidate ∈ served, ¬ candidate.pattern.Takes path) ∧
      ∀ bound, answer = some bound → ∃ place chosen, IsDispatched served path place chosen ∧
        bound.router = chosen.router ∧ bound.lookup = chosen.pattern.lookupOf path := by
  obtain ⟨entries, listed, sorted, registry⟩ := patternRegistry_of_prepare visible registered prepared
  have probed : (request.probe introspector.settings.suppressProbeLogging).splitPath = .ok path :=
    splits
  obtain ⟨first, split, ready⟩ := Pass.splitFor_isReady entries probed
  rw [boundRouter_outcome listed fresh, firstProbe, split, ok_bind]
  rcases registry.ask_outcome ready with
    ⟨outcome, declined⟩ | ⟨before, entry, after, bound, divided, declined, takes, router, outcome⟩
  · refine ⟨none, outcome, ?_, ?_⟩
    · simpa using declined
    · intro bound impossible
      cases impossible
  · rw [divided, List.map_append, List.map_cons] at sorted
    have skipped : ∀ other ∈ before.map (·.router), ∀ pattern : PatternRouter,
        pattern.Serves other → ¬ pattern.Takes path := by
      intro other passed
      obtain ⟨entry, member, rfl⟩ := List.mem_map.mp passed
      exact declined entry member
    obtain ⟨place, chosen, dispatched, same⟩ := exists_isDispatched sorted.symm skipped
      fun pattern serves => (takes pattern serves).1
    have serves := chosen.serves
    rw [same] at serves
    refine ⟨some bound, outcome, ?_, ?_⟩
    · constructor
      · intro impossible
        cases impossible
      · intro nobody
        exact absurd dispatched.takes (nobody chosen (List.mem_of_getElem? dispatched.found))
    · intro answer found
      obtain rfl := Option.some.inj found
      exact ⟨place, chosen, dispatched, router.trans same.symm, (takes _ serves).2⟩

section

private abbrev docs : PatternRouter := .below "docs" .resolved

private abbrev api : PatternRouter := .below "api" (.parsed {})

/-- A context that hides one of the two routers of its parent. -/
def docsContext : RouterContext where
  own := { routers := [("api", api.toRouter.counted)] }
  parents := [{ routers := [("api", docs.toRouter), ("docs", docs.toRouter)] }]

def docsRequest : Request :=
  Request.setAttribute { uri := ⟨none, none, "/docs//a;v=1", none⟩ } AttributeName.lookupPath
    (.text "/api/a")

/-- The router of the parent takes the request, by its own path and not by the one left on it. -/
theorem Introspector.boundRouter_eq_least_docs :
    ∃ introspector later,
      (Introspector.mk docsContext {} {}).prepare {} = (.ok introspector, later) ∧
        ∃ bound, (introspector.boundRouter {} docsRequest).1 = .ok (some bound) ∧
          bound.router = docs.toRouter ∧ bound.lookup = .resolved "/docs/a" := by
  have visible : docsContext.routers = [("api", api.toRouter.counted), ("docs", docs.toRouter)] := by
    rfl
  have served : docsContext.routers.map (·.2) =
      List.map ServedRouter.router [⟨_, api, .counted .plain⟩, ⟨_, docs, .plain⟩] := by
    rw [visible]
    rfl
  have registered : docsContext.routers ≠ [] := by simp [visible]
  have fresh : ({} : Store).remembered? docsRequest = none := by rfl
  have splits : docsRequest.splitPath = .ok ⟨"", "/docs//a;v=1"⟩ := by rfl
  obtain ⟨introspector, later, prepared⟩ := Introspector.exists_prepare registered {} {}
  obtain ⟨answer, outcome, nobody, found⟩ :=
    boundRouter_eq_least served (by simp) prepared fresh splits
  refine ⟨introspector, later, prepared, ?_⟩
  cases answer with
  | none =>
    have takes : docs.Takes ⟨"", "/docs//a;v=1"⟩ := ⟨_, List.mem_singleton_self _, by rfl⟩
    exact absurd takes (nobody.mp rfl ⟨_, docs, .plain⟩ (by simp))
  | some bound =>
    obtain ⟨place, chosen, dispatched, router, lookup⟩ := found bound rfl
    have member := List.mem_of_getElem? dispatched.found
    simp only [List.mem_cons, List.not_mem_nil, or_false] at member
    rcases member with rfl | rfl
    · obtain ⟨route, only, matched⟩ := dispatched.takes
      obtain rfl := List.mem_singleton.mp only
      contradiction
    · exact ⟨bound, outcome, router, lookup⟩

end

end RouteProbe
