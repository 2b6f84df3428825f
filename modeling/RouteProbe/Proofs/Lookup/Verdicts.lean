import RouteProbe.Proofs.Lookup.Operations
import RouteProbe.Proofs.Pattern.Grammar

/-! # Verdicts agree with the routing decision

A bound router judges the patterns of its own routes as the router did when it took the request: the
pattern of the route that decided matches, and none of those in front of it does. This holds on
every request and however the store has evolved, as long as the pattern table has the pattern or has
room for it.
-/

namespace RouteProbe

namespace PatternRouter

variable {router : PatternRouter} {plan : RouterPlan} {path : String} {place : Nat} {route : Route}

/-- The route that decides on a path: it matches, and none in front of it does. -/
structure Decides (router : PatternRouter) (path : String) (place : Nat) (route : Route) : Prop where
  found : router.routes[place]? = some route
  isMatch : route.pattern.isMatch path = true
  first : ∀ earlier other, earlier < place → router.routes[earlier]? = some other →
    other.pattern.isMatch path = false

theorem exists_decides (chosen : router.route? path = some route) :
    ∃ place, router.Decides path place route := by
  obtain ⟨matched, place, inside, rfl, first⟩ := List.find?_eq_some_iff_getElem.mp chosen
  refine ⟨place, List.getElem?_eq_getElem inside, matched, ?_⟩
  intro earlier other before found
  obtain ⟨_, rfl⟩ := List.getElem?_eq_some_iff.mp found
  simpa using first earlier before

/-- A route that has been read from a plan: its pattern is the full pattern of the plan, read in the
way that the router has. -/
def IsRead (router : PatternRouter) (planned : RoutePlan) (route : Route) : Prop :=
  PathPattern.parse router.mode.options (fullPattern planned.pattern) = .ok route.pattern

theorem map_build_eq (built : plan.build = .ok router) (place : Nat) :
    (plan.routes[place]?).map (RoutePlan.build router.mode.options) =
      (router.routes[place]?).map .ok := by
  obtain ⟨routes, read, same⟩ := bind_eq_ok_iff.mp built
  obtain rfl := pure_eq_ok_iff.mp same
  have together := congrArg (·[place]?) (mapM_eq_ok_iff.mp read)
  simpa only [List.getElem?_map] using together

theorem isRead_of_build {options : PatternOptions} {planned : RoutePlan}
    (built : planned.build options = .ok route) :
    PathPattern.parse options (fullPattern planned.pattern) = .ok route.pattern := by
  obtain ⟨pattern, read, same⟩ := bind_eq_ok_iff.mp built
  obtain rfl := pure_eq_ok_iff.mp same
  exact read

theorem exists_route_of_build (built : plan.build = .ok router) {planned : RoutePlan}
    (given : plan.routes[place]? = some planned) :
    ∃ route, router.routes[place]? = some route ∧ router.IsRead planned route := by
  have together := map_build_eq built place
  rw [given, Option.map_some] at together
  obtain ⟨route, found, same⟩ := Option.map_eq_some_iff.mp together.symm
  exact ⟨route, found, isRead_of_build same.symm⟩

theorem exists_plan_of_build (built : plan.build = .ok router)
    (found : router.routes[place]? = some route) :
    ∃ planned, plan.routes[place]? = some planned ∧ router.IsRead planned route := by
  have together := map_build_eq built place
  rw [found, Option.map_some] at together
  obtain ⟨planned, given, same⟩ := Option.map_eq_some_iff.mp together
  exact ⟨planned, given, isRead_of_build same⟩

end PatternRouter

/-- Whether a pattern is in the pattern table of a bound router or has room there; a router without
a table needs none. -/
def BoundRouter.HasRoom (bound : BoundRouter) (store : Store) (pattern : String) : Prop :=
  ∀ cache, bound.cache? = some cache →
    (store.table cache.table).lookup (fullPattern pattern) ≠ none ∨
      (store.table cache.table).length < cache.limit.toNat

/-- How a pattern router is bound, in the form that it wants. -/
inductive PatternRouter.FormOf (pattern : PatternRouter) : BoundRouter → Prop
  | parsed {cache : PatternCache} {split : RequestPath} (mode : pattern.mode = .parsed cache.options) :
      FormOf pattern (.parsed cache split)
  | resolved {router : Router} {path : String} (mode : pattern.mode = .resolved) :
      FormOf pattern (.resolved router ⟨none, pattern.matchPattern⟩ path)

/-- A pattern that is in a table of patterns read from their texts, or has room there, is found as
it is read. -/
theorem PatternCache.find_eq_ok {cache : PatternCache} {table : PatternTable} {text : String}
    {pattern : PathPattern}
    (sound : ∀ entry ∈ table, PathPattern.parse cache.options entry.1 = .ok entry.2)
    (room : table.lookup text ≠ none ∨ table.length < cache.limit.toNat)
    (read : PathPattern.parse cache.options text = .ok pattern) :
    (cache.find table text).1 = .ok pattern := by
  unfold find
  cases known : table.lookup text with
  | some stored =>
    obtain ⟨before, after, same, _⟩ := List.lookup_eq_some_iff.mp known
    have storedRead := sound (text, stored) (by simp [same])
    exact storedRead.symm.trans read
  | none =>
    have vacant : ¬ table.length ≥ cache.limit.toNat := by
      rcases room with present | vacant
      · exact absurd known present
      · omega
    simp only [if_neg vacant, read]

namespace BoundRouter

variable {bound : BoundRouter} {pattern : PatternRouter} {caches : List PatternCache}
  {store : Store} {read : PathPattern} {text : String}

/-- A bound pattern router matches a pattern as it is read in the router's way, against the path
that it is bound to. -/
theorem matchBound_of_parse (form : pattern.FormOf bound) (known : bound.KnownTo caches)
    (sound : store.Sound caches) (room : bound.HasRoom store text)
    (parsed : PathPattern.parse pattern.mode.options (fullPattern text) = .ok read)
    (request : Request) :
    (bound.matchBound store request text).1 = .ok (read.matchPath? bound.lookup.text) := by
  cases form with
  | @parsed cache split mode =>
    rw [mode] at parsed
    have carried := Request.parsedPath?_setAttribute_parsedPath request split
    have found := PatternCache.find_eq_ok (sound.read cache (known cache rfl)) (room cache rfl) parsed
    change (cache.matchPattern (store.table cache.table)
      (request.setAttribute AttributeName.parsedPath (.requestPath split)) (fullPattern text)).1 = _
    simp only [PatternCache.matchPattern, Request.requireParsedPath_eq_ok_iff.mpr carried, found]
    rfl
  | @resolved router path mode =>
    rw [mode] at parsed
    have carried := Request.lookupPath?_setAttribute_lookupPath request path
    change pattern.matchPattern
      (request.setAttribute AttributeName.lookupPath (.text path)) (fullPattern text) = _
    simp only [PatternRouter.matchPattern, PatternRouter.requirePath, mode,
      Request.requireLookupPath_eq_ok_iff.mpr carried, ok_bind, parsed]
    rfl

/-- A pattern router that was bound in a pass is bound in the form it wants, to the path that it
found, and the route that decides on this path is the one with whose chain it answered. -/
theorem IsBoundIn.decides {request probe : Request} {chain : Chain}
    (made : bound.IsBoundIn request probe chain) (serves : pattern.Serves bound.router) :
    pattern.FormOf bound ∧ (bound.router.resolve probe).outcome = .ok (some chain) ∧
      ∃ place route, pattern.Decides bound.lookup.text place route ∧
        route.chain pattern.interceptors = chain := by
  obtain @⟨_, _, _, entry, _, wellFormed, _, _, answered, binding⟩ := made
  rw [RegisteredRouter.router_of_bind wellFormed binding] at serves ⊢
  have resolved := answered
  rw [RegisteredRouter.answer, serves.outcome_eq] at resolved
  obtain ⟨path, after, route, found, chosen, same⟩ := PatternRouter.resolve_eq_chain resolved
  obtain ⟨place, decides⟩ := PatternRouter.exists_decides chosen
  rw [RegisteredRouter.leave_of_findPath serves found] at binding
  have bindsAs : ∀ {other}, entry.bind after = .ok other → pattern.FormOf other →
      other.lookup.text = path → pattern.FormOf bound ∧ bound.lookup.text = path := by
    intro other otherBinding form text
    obtain rfl : bound = other := Except.ok.inj (binding.symm.trans otherBinding)
    exact ⟨form, text⟩
  have bound : pattern.FormOf bound ∧ bound.lookup.text = path := by
    cases mode : pattern.mode with
    | parsed options =>
      obtain ⟨split, left, rfl, rfl⟩ := (PatternRouter.findPath_parsed_iff mode).mp found
      obtain ⟨cache, rfl, binds⟩ := RegisteredRouter.bind_parsed serves wellFormed mode left
      exact bindsAs binds (.parsed mode) rfl
    | resolved =>
      obtain ⟨split, _, _, rfl⟩ := (PatternRouter.findPath_resolved_iff mode).mp found
      have binds := RegisteredRouter.bind_resolved serves wellFormed mode
        (probe.lookupPath?_setAttribute_lookupPath path)
      exact bindsAs binds (.resolved mode) rfl
  refine ⟨bound.1, answered, place, route, ?_, same⟩
  rw [bound.2]
  exact decides

/-- The verdicts on the patterns of a plan that agree with a decision for one of its routes: its
pattern matches by its full text and the path that the router is bound to, and none in front of it
does. -/
structure AgreesOn (bound : BoundRouter) (store : Store) (request : Request) (plan : RouterPlan)
    (place : Nat) : Prop where
  decisive : ∀ planned, plan.routes[place]? = some planned → bound.HasRoom store planned.pattern →
    ∃ found, (bound.matchBound store request planned.pattern).1 = .ok (some found) ∧
      found.pattern = fullPattern planned.pattern ∧ found.path = bound.lookup.text
  earlier : ∀ earlier planned, earlier < place → plan.routes[earlier]? = some planned →
    bound.HasRoom store planned.pattern →
      (bound.matchBound store request planned.pattern).1 = .ok none

theorem agreesOn_of_decides {plan : RouterPlan} {place : Nat} {route : Route}
    (built : plan.build = .ok pattern) (form : pattern.FormOf bound)
    (decides : pattern.Decides bound.lookup.text place route) (known : bound.KnownTo caches)
    (sound : store.Sound caches) (request : Request) :
    bound.AgreesOn store request plan place := by
  constructor
  · intro planned given room
    obtain ⟨other, found, parsed⟩ := PatternRouter.exists_route_of_build built given
    obtain rfl : route = other := Option.some.inj (decides.found.symm.trans found)
    rw [matchBound_of_parse form known sound room parsed request]
    obtain ⟨bindings, matched⟩ := Option.isSome_iff_exists.mp decides.isMatch
    refine ⟨⟨route.pattern.source, bound.lookup.text, bindings⟩, ?_, ?_, rfl⟩
    · rw [PathPattern.matchPath?, matched, Option.map_some]
    · obtain ⟨_, _, same⟩ := PathPattern.parse_eq_ok_iff.mp parsed
      exact (congrArg PathPattern.source same).symm
  · intro earlier planned before given room
    obtain ⟨other, found, parsed⟩ := PatternRouter.exists_route_of_build built given
    rw [matchBound_of_parse form known sound room parsed request]
    have missed := decides.first earlier other before found
    rw [PathPattern.isMatch, Option.isSome_eq_false_iff, Option.isNone_iff_eq_none] at missed
    rw [PathPattern.matchPath?, missed, Option.map_none]

end BoundRouter

/-- If introspection finds a pattern router for a request, the router has been bound in a pass in
which one of its routes has decided, which is a pass about that request unless the router was
remembered. The verdicts of the bound router agree with this decision, on every request and however
the store evolves. -/
theorem Introspector.agreesOn_of_boundRouter {plan : RouterPlan} {pattern : PatternRouter}
    (built : plan.build = .ok pattern) {introspector : Introspector} {caches : List PatternCache}
    {store : Store} {request : Request} {bound : BoundRouter}
    (arises : introspector.ArisesIn caches store)
    (asked : (introspector.boundRouter store request).1 = .ok (some bound))
    (serves : pattern.Serves bound.router) :
    ∃ origin probe chain place route, bound.IsBoundIn origin probe chain ∧
      (store.remembered? request = none → origin = request) ∧
      (bound.router.resolve probe).outcome = .ok (some chain) ∧
      pattern.Decides bound.lookup.text place route ∧ route.chain pattern.interceptors = chain ∧
      (∃ planned, plan.routes[place]? = some planned) ∧
      ∀ laterCaches later, Store.Evolves caches store laterCaches later →
        ∀ other, bound.AgreesOn later other plan place := by
  have sound := arises.reached.sound Store.sound_start
  have origin : ∃ origin probe chain, bound.IsBoundIn origin probe chain ∧
      (store.remembered? request = none → origin = request) ∧ bound.KnownTo caches := by
    cases remembered : store.remembered? request with
    | some left =>
      simp only [boundRouter, remembered] at asked
      obtain rfl := Option.some.inj (Except.ok.inj asked)
      obtain ⟨value, _, numbered⟩ := Option.bind_eq_some_iff.mp remembered
      obtain ⟨number, _, kept⟩ := Option.bind_eq_some_iff.mp numbered
      obtain ⟨cached, origin, probe, chain, made⟩ := sound.made left (List.mem_of_getElem? kept)
      refine ⟨origin, probe, chain, made, ?_, cached⟩
      intro impossible
      cases impossible
    | none =>
      obtain ⟨entries, listed⟩ := exists_listed_of_boundRouter remembered asked
      obtain ⟨wellFormed, known⟩ := arises.registry listed
      obtain ⟨⟨probe, chain, made⟩, cached⟩ :=
        isBoundIn_of_boundRouter wellFormed listed remembered asked
      exact ⟨request, probe, chain, made, fun _ => rfl,
        fun cache has => known cache (cached cache has)⟩
  obtain ⟨origin, probe, chain, made, fresh, cached⟩ := origin
  obtain ⟨form, answered, place, route, decides, same⟩ := made.decides serves
  obtain ⟨planned, given, _⟩ := PatternRouter.exists_plan_of_build built decides.found
  refine ⟨origin, probe, chain, place, route, made, fresh, answered, decides, same,
    ⟨planned, given⟩, ?_⟩
  intro laterCaches later evolves other
  refine BoundRouter.agreesOn_of_decides built form decides ?_ (evolves.sound sound) other
  exact fun cache has => evolves.subset cache (cached cache has)

/-- A plan of two routes, with and without a slash in front. -/
def guidePlan : RouterPlan where
  name := "guide"
  order := 0
  routes := [⟨"docs/a", .operation "a", none⟩, ⟨"/docs/**", .operation "docs", none⟩]

def guideRouter : PatternRouter where
  name := "guide"
  order := 0
  mode := .parsed {}
  routes := [⟨⟨"/docs/a", [.literal "docs", .literal "a"], true, false, {}⟩, .operation "a", none⟩,
    ⟨⟨"/docs/**", [.literal "docs", .multi], true, false, {}⟩, .operation "docs", none⟩]
  interceptors := []

private abbrev guideContext : RouterContext where
  own := { routers := [("guide", guideRouter.toRouter)] }

private abbrev guideRequest : Request := { uri := ⟨none, none, "/docs/b", none⟩ }

private abbrev guideCache : PatternCache := ⟨guideRouter.toRouter, {}, 1024, 0⟩

/-- The second route decides on a request for another document, and the verdicts agree. They do so
still when a policy has been looked up, another request has been filled in and another pattern has
been matched. -/
theorem Introspector.agreesOn_of_boundRouter_guide :
    ∃ introspector begun,
      (Introspector.mk guideContext {} {}).prepare {} = (.ok introspector, begun) ∧
        ∃ bound, (introspector.boundRouter begun guideRequest).1 = .ok (some bound) ∧
          ∀ other pattern,
            let asked := (introspector.boundRouter begun guideRequest).2
            let looked := (introspector.corsPolicy asked other).2
            let filled := (introspector.fill looked other).2
            let matched := (bound.matchBound filled other pattern).2.1
            bound.AgreesOn begun other guidePlan 1 ∧ bound.AgreesOn matched other guidePlan 1 := by
  have built : guidePlan.build = .ok guideRouter := by rfl
  have visible : guideContext.routers.map (·.2) = [guideRouter.toRouter] := by rfl
  have registered : guideContext.routers ≠ [] := List.cons_ne_nil _ _
  obtain ⟨introspector, begun, prepared⟩ := Introspector.exists_prepare registered {} {}
  have listed : introspector.registry.entries? = some [⟨guideRouter.toRouter, some guideCache⟩] := by
    obtain ⟨notice, discovered⟩ := discover_of_routers registered {}
    rw [visible, List.mergeSort_singleton] at discovered
    have same := prepared.symm.trans (Introspector.prepare_of_discover discovered)
    obtain rfl := Except.ok.inj (Prod.mk.inj same).1
    rfl
  have settings : introspector.settings = {} := by
    obtain ⟨_, _, _, rfl, _⟩ := Introspector.prepare_eq_ok prepared
    rfl
  have unbound : begun.remembered? guideRequest = none := by rfl
  have asked : (introspector.boundRouter begun guideRequest).1 =
      .ok (some (.parsed guideCache ⟨"", "/docs/b"⟩)) := by
    rw [Introspector.boundRouter_outcome listed unbound, Introspector.firstProbe, settings]
    rfl
  refine ⟨introspector, begun, prepared, _, asked, ?_⟩
  obtain ⟨_, _, _, place, route, _, _, _, decides, _, _, agrees⟩ :=
    Introspector.agreesOn_of_boundRouter built (.prepared .refl prepared .refl) asked .plain
  have second : place = 1 := by
    have matched := decides.isMatch
    have found := decides.found
    rcases place with _ | _ | place
    · obtain rfl := Option.some.inj found
      contradiction
    · rfl
    · contradiction
  subst second
  have caches : introspector.registry.caches = [guideCache] := by
    rw [RouterRegistry.caches, listed]
    rfl
  have known : (BoundRouter.parsed guideCache ⟨"", "/docs/b"⟩).KnownTo [guideCache] := by
    rintro cache ⟨⟩
    exact List.mem_singleton_self _
  have wellFormed := fun entry => Introspector.wellFormed_of_prepare prepared listed entry
  rw [List.nil_append, caches] at agrees
  intro other pattern
  refine ⟨agrees _ _ .refl other, agrees [guideCache] _ ?_ other⟩
  have filling := introspector.fill_evolves wellFormed listed (fun cache => (caches ▸ ·))
  exact (introspector.boundRouter_evolves _ _ guideRequest).trans
    ((introspector.corsPolicy_evolves _ _ other).trans
      ((filling _ other).trans (BoundRouter.matchBound_evolves known _ other pattern)))

end RouteProbe
