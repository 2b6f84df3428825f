import RouteProbe.Proofs.Lookup.DispatchAgreement
import RouteProbe.Proofs.Lookup.Verdicts
import RouteProbe.Proofs.Request.Probes

/-! # Where policies come from

The policy lookup goes by the first router that does not fail and has a route for the request. The
policy of that route comes before all others; then the first interceptor of the router that is a
source of policies decides, and the handler only if there is none.
-/

namespace RouteProbe

/-- The routers made of a pattern router by counting its calls and by letting it fail, with the
paths that they fail on. -/
inductive PatternRouter.Behind (pattern : PatternRouter) : List String → Router → Prop
  | plain : Behind pattern [] pattern.toRouter
  | counted {fails : List String} {router : Router} (inner : Behind pattern fails router) :
      Behind pattern fails router.counted
  | failing {fails : List String} {router : Router} (path : String)
      (inner : Behind pattern fails router) : Behind pattern (path :: fails) (router.failingOn path)

namespace PatternRouter.Behind

variable {pattern : PatternRouter} {fails : List String} {router : Router} {request : Request}

theorem patternOptions?_eq (behind : pattern.Behind fails router) :
    router.patternOptions? = pattern.mode.declared? := by
  induction behind with
  | plain => rfl
  | counted _ ih => exact ih
  | failing _ _ ih => exact ih

theorem resolve_of_spared (behind : pattern.Behind fails router) (spared : request.path ∉ fails) :
    (router.resolve request).outcome = (pattern.resolve request).outcome ∧
      (router.resolve request).attributes = (pattern.resolve request).attributes := by
  induction behind with
  | plain => exact ⟨rfl, rfl⟩
  | counted _ ih => exact ih spared
  | failing path _ ih =>
    obtain ⟨different, others⟩ := not_or.mp (mt List.mem_cons.mpr spared)
    simp only [Router.failingOn, if_neg different]
    exact ih others

theorem resolve_of_failing (behind : pattern.Behind fails router) (failing : request.path ∈ fails) :
    (∃ error, (router.resolve request).outcome = .error error) ∧
      (router.resolve request).attributes = request.attributes := by
  induction behind with
  | plain => cases failing
  | counted _ ih => exact ih failing
  | @failing _ router path _ ih =>
    by_cases same : request.path = path
    · have failed : (router.failingOn path).resolve request = ⟨.error _, request.attributes, []⟩ :=
        if_pos same
      rw [failed]
      exact ⟨⟨_, rfl⟩, rfl⟩
    · simp only [Router.failingOn, if_neg same]
      exact ih (List.mem_of_ne_of_mem same failing)

end PatternRouter.Behind

/-- A router that fails on some paths and is a pattern router on all others. -/
structure UnreliableRouter where
  router : Router
  pattern : PatternRouter
  fails : List String
  behind : pattern.Behind fails router

/-- Whether the router answers a request, whose path has been split, with a route. -/
def UnreliableRouter.Answers (candidate : UnreliableRouter) (request : Request) (path : RequestPath) :
    Prop :=
  request.path ∉ candidate.fails ∧ candidate.pattern.Takes path

/-- What the policy lookup finds on a route, by the source that decides: the route itself, the first
interceptor that is a source, the handler, or nobody. -/
inductive Route.PolicyIs (route : Route) (interceptors : List Interceptor) (probe : Request) :
    Except RoutingError (Option CorsPolicy) → Prop
  | declared {policy : CorsPolicy} (own : route.cors = some policy) :
      PolicyIs route interceptors probe (.ok (some policy))
  | intercepted {before after : List Interceptor} {capable : Interceptor} {source : CorsSource}
      (undeclared : route.cors = none) (divided : interceptors = before ++ capable :: after)
      (incapable : ∀ other ∈ before, other.cors = none) (found : capable.cors = some source) :
      PolicyIs route interceptors probe ((source probe).mapError RoutingError.stateFrom)
  | handled {source : CorsSource} (undeclared : route.cors = none)
      (incapable : ∀ other ∈ interceptors, other.cors = none)
      (found : route.handler.cors = some source) :
      PolicyIs route interceptors probe ((source probe).mapError RoutingError.stateFrom)
  | absent (undeclared : route.cors = none) (incapable : ∀ other ∈ interceptors, other.cors = none)
      (silent : route.handler.cors = none) : PolicyIs route interceptors probe (.ok none)

/-- The chain of a route has the policy that the route, the interceptors and the handler make up. -/
theorem Route.policyIs_chain (route : Route) (interceptors : List Interceptor) (probe : Request) :
    route.PolicyIs interceptors probe
      (((route.chain interceptors).corsPolicy probe).mapError RoutingError.stateFrom) := by
  cases own : route.cors with
  | some policy =>
    have decided : (route.chain interceptors).corsPolicy probe = .ok (some policy) := by
      simp only [chain, own]
      rfl
    rw [decided]
    exact .declared own
  | none =>
    have same : route.chain interceptors = ⟨route.handler, interceptors⟩ := by
      simp only [chain, own]
      rfl
    rw [same]
    cases first : interceptors.findSome? (·.cors) with
    | some source =>
      obtain ⟨before, capable, after, divided, found, incapable⟩ :=
        List.findSome?_eq_some_iff.mp first
      simp only [Chain.corsPolicy, Chain.corsSource?, first, Option.some_or]
      exact .intercepted own divided incapable found
    | none =>
      have incapable := List.findSome?_eq_none_iff.mp first
      cases found : route.handler.cors with
      | some source =>
        simp only [Chain.corsPolicy, Chain.corsSource?, first, Option.none_or, found]
        exact .handled own incapable found
      | none =>
        simp only [Chain.corsPolicy, Chain.corsSource?, first, Option.none_or, found]
        exact .absent own incapable found

/-- A probe in the course of a pass over pattern routers: they all find their paths on it, and it
still shows the request. -/
structure Request.IsUnderway (request : Request) (suppressed wanted : Bool) (path : RequestPath)
    (probe : Request) : Prop where
  ready : probe.IsReady wanted path
  probed : request.IsProbedAs suppressed path probe

/-- The first router is asked about such a probe. -/
theorem Pass.exists_splitFor {request : Request} {path : RequestPath} (entries : List RegisteredRouter)
    (suppressed : Bool) (splits : request.splitPath = .ok path) :
    ∃ first, splitFor entries (request.probe suppressed) = .ok first ∧
      request.IsUnderway suppressed (entries.any RegisteredRouter.usesParsedPath) path first := by
  have probed := request.isProbedAs_probe suppressed path
  have splitsToo := probed.splitPath_eq.trans splits
  obtain ⟨first, begins, ready⟩ := splitFor_isReady entries splitsToo
  refine ⟨first, begins, ready, ?_⟩
  unfold splitFor at begins
  split at begins
  · simp only [Request.cacheParsedPath, splitsToo] at begins
    obtain rfl := Except.ok.inj begins
    exact probed.setParsedPath
  · obtain rfl := Except.ok.inj begins
    exact probed

section

variable {request probe first : Request} {suppressed wanted : Bool} {path : RequestPath}
  {entry : RegisteredRouter} {entries : List RegisteredRouter} {candidate : UnreliableRouter}

namespace UnreliableRouter

/-- Whether the router fails or not, the pass goes on with such a probe. -/
theorem leave_isUnderway (same : entry.router = candidate.router)
    (wants : candidate.pattern.mode ≠ .resolved → wanted = true)
    (underway : request.IsUnderway suppressed wanted path probe) :
    request.IsUnderway suppressed wanted path (entry.leave probe) := by
  have behind := candidate.behind
  rw [← same] at behind
  by_cases failing : probe.path ∈ candidate.fails
  · have left : entry.leave probe = probe := by
      rw [RegisteredRouter.leave, Resolution.applyTo, (behind.resolve_of_failing failing).2]
    rwa [left]
  · obtain ⟨after, found, readyAfter⟩ := underway.ready.findPath wants
    have left : entry.leave probe = after := by
      rw [RegisteredRouter.leave, Resolution.applyTo, (behind.resolve_of_spared failing).2]
      exact PatternRouter.applyTo_of_findPath found
    have splits := underway.probed.splitPath_eq.symm.trans underway.ready.split
    rw [left]
    exact ⟨readyAfter, underway.probed.findPath splits found⟩

theorem answer_of_spared (same : entry.router = candidate.router)
    (wants : candidate.pattern.mode ≠ .resolved → wanted = true)
    (underway : request.IsUnderway suppressed wanted path probe)
    (spared : request.path ∉ candidate.fails) :
    entry.answer probe = .ok ((candidate.pattern.route? (candidate.pattern.lookupOf path).text).map
      (Route.chain candidate.pattern.interceptors)) := by
  have behind := candidate.behind
  rw [← same] at behind
  rw [← underway.probed.path_eq] at spared
  obtain ⟨after, found, _⟩ := underway.ready.findPath wants
  rw [RegisteredRouter.answer, (behind.resolve_of_spared spared).1,
    (PatternRouter.resolve_of_findPath found).1]

/-- A router that fails or has no route is passed over. -/
theorem passesOver (same : entry.router = candidate.router)
    (wants : candidate.pattern.mode ≠ .resolved → wanted = true)
    (underway : request.IsUnderway suppressed wanted path probe)
    (declines : ¬ candidate.Answers request path) : entry.PassesOver true probe := by
  by_cases failing : request.path ∈ candidate.fails
  · have behind := candidate.behind
    rw [← same] at behind
    rw [← underway.probed.path_eq] at failing
    exact .inr ⟨rfl, (behind.resolve_of_failing failing).1⟩
  · left
    rw [answer_of_spared same wants underway failing]
    cases found : candidate.pattern.route? (candidate.pattern.lookupOf path).text with
    | none => rfl
    | some route =>
      have takes : candidate.pattern.Takes path := by
        rw [← PatternRouter.route?_isSome_iff, found, Option.isSome_some]
      exact absurd ⟨failing, takes⟩ declines

/-- A router that answers does so with the chain of its first route for the path. -/
theorem exists_answer (same : entry.router = candidate.router)
    (wants : candidate.pattern.mode ≠ .resolved → wanted = true)
    (underway : request.IsUnderway suppressed wanted path probe)
    (answers : candidate.Answers request path) :
    ∃ place route,
      candidate.pattern.Decides (candidate.pattern.lookupOf path).text place route ∧
        entry.answer probe = .ok (some (route.chain candidate.pattern.interceptors)) := by
  obtain ⟨spared, takes⟩ := answers
  obtain ⟨route, chosen⟩ := Option.isSome_iff_exists.mp (PatternRouter.route?_isSome_iff.mpr takes)
  obtain ⟨place, decides⟩ := PatternRouter.exists_decides chosen
  refine ⟨place, route, decides, ?_⟩
  rw [answer_of_spared same wants underway spared, chosen, Option.map_some]

end UnreliableRouter

/-- A router for split paths makes the pass split the path. -/
theorem UnreliableRouter.wants (member : entry ∈ entries) (wellFormed : entry.WellFormed)
    (same : entry.router = candidate.router) (split : candidate.pattern.mode ≠ .resolved) :
    entries.any RegisteredRouter.usesParsedPath = true := by
  have declared : entry.router.patternOptions?.isSome = true := by
    rw [same, candidate.behind.patternOptions?_eq]
    exact PathMode.isSome_declared? split
  exact List.any_eq_true.mpr ⟨entry, member, wellFormed.usesParsedPath declared⟩

theorem exists_passage_of_declining (wellFormed : ∀ entry ∈ entries, entry.WellFormed)
    {passing : List RegisteredRouter} {declining : List UnreliableRouter}
    (included : ∀ entry ∈ passing, entry ∈ entries)
    (same : passing.map (·.router) = declining.map (·.router))
    (declines : ∀ candidate ∈ declining, ¬ candidate.Answers request path)
    (underway : request.IsUnderway suppressed (entries.any RegisteredRouter.usesParsedPath) path first) :
    ∃ last, Passage true first passing last ∧
      request.IsUnderway suppressed (entries.any RegisteredRouter.usesParsedPath) path last := by
  refine Passage.exists_of_passesOver ?_ underway
  intro entry member probe underway
  have listed : entry.router ∈ declining.map (·.router) := same ▸ List.mem_map_of_mem member
  obtain ⟨candidate, declining, router⟩ := List.mem_map.mp listed
  have wants := UnreliableRouter.wants (included entry member)
    (wellFormed entry (included entry member)) router.symm
  exact ⟨UnreliableRouter.passesOver router.symm wants underway (declines candidate declining),
    UnreliableRouter.leave_isUnderway router.symm wants underway⟩

end

namespace Introspector

/-- On a request without a remembered policy, over pattern routers that may fail on some paths, the
policy lookup finds nothing if no router answers. Otherwise it goes by the first that does, and
there by the first route that matches. -/
theorem corsPolicy_of_first {context : RouterContext} {settings : IntrospectionSettings}
    {earlier later : Store} {introspector : Introspector} {served : List UnreliableRouter}
    (prepared : (Introspector.mk context settings {}).prepare earlier = (.ok introspector, later))
    (routers : introspector.registry.routers = served.map (·.router)) (store : Store)
    {request : Request} {path : RequestPath} (fresh : request.rememberedPolicy? = none)
    (splits : request.splitPath = .ok path) :
    ((∀ candidate ∈ served, ¬ candidate.Answers request path) →
      (introspector.corsPolicy store request).1 = .ok none) ∧
    ∀ before chosen after, served = before ++ chosen :: after →
      (∀ candidate ∈ before, ¬ candidate.Answers request path) → chosen.Answers request path →
      ∃ place route probe,
        chosen.pattern.Decides (chosen.pattern.lookupOf path).text place route ∧
        request.IsProbedAs settings.suppressProbeLogging path probe ∧
        route.PolicyIs chosen.pattern.interceptors probe
          (introspector.corsPolicy store request).1 := by
  obtain ⟨_, _, _, made, _⟩ := prepare_eq_ok prepared
  obtain ⟨entries, listed⟩ : ∃ entries, introspector.registry.entries? = some entries :=
    ⟨_, by rw [made]⟩
  have wellFormed := wellFormed_of_prepare prepared listed
  have suppressed : introspector.settings = settings := by rw [made]
  have made : entries.map (·.router) = served.map (·.router) := by
    rw [← routers, RouterRegistry.routers, listed, Option.getD_some]
  obtain ⟨first, begins, underway⟩ :=
    Pass.exists_splitFor entries settings.suppressProbeLogging splits
  rw [corsPolicy_outcome listed fresh, firstProbe, suppressed, begins, ok_bind]
  constructor
  · intro declines
    obtain ⟨last, passage, _⟩ :=
      exists_passage_of_declining wellFormed (fun _ => id) made declines underway
    rw [Pass.ask_outcome_of_passage passage]
    rfl
  · intro before chosen after division declines answers
    -- The registry is divided where the routers are.
    rw [division, List.map_append, List.map_cons] at made
    obtain ⟨front, rest, rfl, sameFront, sameRest⟩ := List.map_eq_append_iff.mp made
    obtain ⟨entry, back, rfl, same, _⟩ := List.map_eq_cons_iff.mp sameRest
    have asked : entry ∈ front ++ entry :: back := by simp
    obtain ⟨last, passage, underwayLast⟩ := exists_passage_of_declining wellFormed
      (fun _ => List.mem_append_left _) sameFront declines underway
    have wants := UnreliableRouter.wants asked (wellFormed entry asked) same
    obtain ⟨place, route, decides, answered⟩ :=
      UnreliableRouter.exists_answer same wants underwayLast answers
    refine ⟨place, route, entry.leave last, decides,
      (UnreliableRouter.leave_isUnderway same wants underwayLast).probed, ?_⟩
    rw [Pass.ask_outcome_of_chain passage answered]
    have flattened (found : Except RoutingError (Option CorsPolicy)) :
        (found.map some).map Option.join = found := by
      cases found <;> rfl
    rw [flattened]
    exact route.policyIs_chain _ _

end Introspector

section

private abbrev flakyWiki : UnreliableRouter where
  router := (PatternRouter.below "wiki" .resolved).toRouter.counted.failingOn "/wiki/a"
  pattern := .below "wiki" .resolved
  fails := ["/wiki/a"]
  behind := .failing "/wiki/a" (.counted .plain)

/-- A route with a policy of its own, between an interceptor and a handler with other answers. -/
private abbrev wikiRoute : Route where
  pattern := ⟨"/wiki/**", [.literal "wiki", .multi], true, false, {}⟩
  handler := .operation "wiki" (some { maxAge := none })
  cors := some { credentials := true }

private abbrev wikiPattern : PatternRouter :=
  ⟨"backup", 1, .resolved, [wikiRoute], [⟨"gate", some fun _ => .ok none⟩]⟩

private abbrev sureWiki : UnreliableRouter := ⟨wikiPattern.toRouter, wikiPattern, [], .plain⟩

private abbrev wikiContext : RouterContext where
  own := { routers := [("flaky", flakyWiki.router), ("backup", sureWiki.router)] }

private abbrev wikiRequest : Request := { uri := ⟨none, none, "/wiki/a", none⟩ }

/-- Where the first router fails, the second one decides, by the policy of its route. -/
theorem Introspector.corsPolicy_of_first_wiki :
    ∃ introspector later,
      (Introspector.mk wikiContext {} {}).prepare {} = (.ok introspector, later) ∧
        (introspector.corsPolicy later wikiRequest).1 = .ok (some { credentials := true }) := by
  have visible : wikiContext.routers.map (·.2) = [flakyWiki.router, sureWiki.router] := by rfl
  have inOrder : [flakyWiki.router, sureWiki.router].Pairwise
      fun left right => left.order ≤ right.order := List.pairwise_pair.mpr Int.one_nonneg
  have undeclared : ∀ router ∈ [flakyWiki.router, sureWiki.router],
      router.patternOptions? = none := by
    intro router member
    simp only [List.mem_cons, List.not_mem_nil, or_false] at member
    rcases member with rfl | rfl <;> rfl
  obtain ⟨introspector, later, prepared, _, listed⟩ :=
    exists_prepare_in_order visible (List.cons_ne_nil _ _) inOrder undeclared {} {}
  have routers : introspector.registry.routers = [flakyWiki, sureWiki].map (·.router) := by
    rw [RouterRegistry.routers, listed]
    rfl
  have fresh : wikiRequest.rememberedPolicy? = none := by rfl
  have splits : wikiRequest.splitPath = .ok ⟨"", "/wiki/a"⟩ := by rfl
  have declines : ∀ candidate ∈ [flakyWiki], ¬ candidate.Answers wikiRequest ⟨"", "/wiki/a"⟩ := by
    intro candidate member answers
    obtain rfl := List.mem_singleton.mp member
    exact answers.1 (List.mem_singleton_self _)
  have answers : sureWiki.Answers wikiRequest ⟨"", "/wiki/a"⟩ :=
    ⟨List.not_mem_nil, wikiRoute, List.mem_singleton_self _, by rfl⟩
  obtain ⟨place, route, probe, decides, _, policy⟩ :=
    (corsPolicy_of_first prepared routers later fresh splits).2 [flakyWiki] sureWiki []
      rfl declines answers
  obtain rfl := List.mem_singleton.mp (List.mem_of_getElem? decides.found)
  refine ⟨introspector, later, prepared, ?_⟩
  generalize outcome : (introspector.corsPolicy later wikiRequest).1 = found at policy
  cases policy with
  | declared own =>
    obtain rfl := Option.some.inj own
    rfl
  | intercepted undeclared => cases undeclared
  | handled undeclared => cases undeclared
  | absent undeclared => cases undeclared

end

end RouteProbe
