import RouteProbe.Proofs.Lookup.Binding
import RouteProbe.Proofs.Lookup.FirstChain

/-! # Where a bound lookup path comes from

A router that matches normal forms is bound to the lookup path found on the probe. The probe starts
without one, and every router asked in the pass may leave one there. So the path is the last one
that any of them has left: the router's own if it has left one, and otherwise that of a router asked
before it. It is never the one that was on the request.
-/

namespace RouteProbe

open AttributeWrite

/-- A bound router that is left on a request is remembered. -/
theorem Store.remembered?_remember (store : Store) (request : Request) (bound : BoundRouter)
    (policy : Option CorsPolicy) :
    (store.remember request bound policy).2.remembered? (store.remember request bound policy).1 =
      some bound := by
  have different : AttributeName.boundRouter ≠ AttributeName.corsOutcome := by decide
  simp only [remember, keep, remembered?, Request.attribute?_setAttribute_of_ne _ different,
    Request.attribute?_setAttribute_self]
  simp [AttributeValue.boundRouter?]

namespace Introspector

variable {introspector : Introspector} {store : Store} {request first : Request}
  {recorded : List RecordedEntry} {bound : BoundRouter}

/-- Whether one of the two queries that bind routers binds this one: the query for the bound router
itself, or the one that leaves it on the request. -/
def Binds (introspector : Introspector) (store : Store) (request : Request) (bound : BoundRouter) :
    Prop :=
  (introspector.boundRouter store request).1 = .ok (some bound) ∨
    ∃ filled after, introspector.fill store request = (.ok filled, after) ∧
      after.remembered? filled = some bound

/-- Whether both queries fail for want of a lookup path. -/
def RefusesLookup (introspector : Introspector) (store : Store) (request : Request) : Prop :=
  let missing := RoutingError.missingAttribute "resolved lookup path" AttributeName.lookupPath
  (introspector.boundRouter store request).1 = .error missing ∧
    (introspector.fill store request).1 = .error (.introspection missing)

/-- No lookup path is on the probe that the first router is asked about. -/
theorem attribute?_firstProbe {entries : List RegisteredRouter}
    (begins : introspector.firstProbe entries request = .ok first) :
    first.attribute? AttributeName.lookupPath = none := by
  unfold firstProbe Pass.splitFor at begins
  split at begins
  · obtain ⟨⟨path, split⟩, cached, rfl⟩ := map_eq_ok_iff.mp begins
    obtain ⟨_, _, same⟩ := bind_eq_ok_iff.mp cached
    obtain ⟨_, rfl⟩ := Prod.mk.inj (pure_eq_ok_iff.mp same)
    rw [Request.attribute?_setAttribute_of_ne _ Request.parsedPath_ne_lookupPath.symm]
    exact Request.attribute?_probe_lookupPath _ _
  · obtain rfl := Except.ok.inj begins
    exact Request.attribute?_probe_lookupPath _ _

theorem findAnswers_of_fill (fresh : store.remembered? request = none) {filled : Request}
    {after : Store} (ran : introspector.fill store request = (.ok filled, after))
    (left : after.remembered? filled = some bound) :
    ∃ policy, (introspector.findAnswers request).outcome = .ok (some (bound, policy)) := by
  cases outcome : (introspector.findAnswers request).outcome with
  | error error =>
    simp only [fill, outcome] at ran
    cases (Prod.mk.inj ran).1
  | ok answers =>
    cases answers with
    | none =>
      simp only [fill, outcome] at ran
      obtain ⟨same, rfl⟩ := Prod.mk.inj ran
      obtain rfl := Except.ok.inj same
      have untouched : store.remembered? request = some bound := left
      rw [fresh] at untouched
      cases untouched
    | some answer =>
      obtain ⟨made, policy⟩ := answer
      simp only [fill, outcome] at ran
      obtain ⟨same, rfl⟩ := Prod.mk.inj ran
      obtain rfl := Except.ok.inj same
      rw [Store.remembered?_remember] at left
      obtain rfl := Option.some.inj left
      exact ⟨policy, rfl⟩

theorem firstChain_of_binds
    (listed : introspector.registry.entries? = some (recorded.map (·.entry)))
    (fresh : store.remembered? request = none) (binds : introspector.Binds store request bound) :
    ∃ first, introspector.firstProbe (recorded.map (·.entry)) request = .ok first ∧
      Nonempty (FirstChain recorded first) := by
  rcases binds with outcome | ⟨filled, after, ran, left⟩
  · rw [boundRouter_outcome listed fresh] at outcome
    obtain ⟨first, begins, asked⟩ := bind_eq_ok_iff.mp outcome
    exact ⟨first, begins, exists_firstChain asked⟩
  · obtain ⟨policy, outcome⟩ := findAnswers_of_fill fresh ran left
    rw [findAnswers_outcome listed] at outcome
    obtain ⟨first, begins, asked⟩ := bind_eq_ok_iff.mp outcome
    exact ⟨first, begins, exists_firstChain asked⟩

section FirstChain

variable (listed : introspector.registry.entries? = some (recorded.map (·.entry)))
  (fresh : store.remembered? request = none)
  (begins : introspector.firstProbe (recorded.map (·.entry)) request = .ok first)
  (found : FirstChain recorded first)

include listed fresh begins

theorem bind_of_binds (binds : introspector.Binds store request bound) :
    found.decisive.entry.bind (found.decisive.entry.leave found.probe) = .ok bound := by
  rcases binds with outcome | ⟨filled, after, ran, left⟩
  · rw [boundRouter_outcome listed fresh, begins, ok_bind, found.ask_outcome] at outcome
    obtain ⟨made, binding, same⟩ := map_eq_ok_iff.mp outcome
    obtain rfl := Option.some.inj same
    exact binding
  · obtain ⟨policy, outcome⟩ := findAnswers_of_fill fresh ran left
    rw [findAnswers_outcome listed, begins, ok_bind, found.ask_outcome] at outcome
    obtain ⟨answer, made, same⟩ := map_eq_ok_iff.mp outcome
    obtain rfl := Option.some.inj same
    exact RegisteredRouter.bind_of_answers made

theorem refuses_of_bind (unbound : found.decisive.entry.bind
    (found.decisive.entry.leave found.probe) =
      .error (.missingAttribute "resolved lookup path" AttributeName.lookupPath)) :
    introspector.RefusesLookup store request := by
  constructor
  · rw [boundRouter_outcome listed fresh, begins, ok_bind, found.ask_outcome, Pass.reading_fst,
      unbound]
    rfl
  · have outcome : (introspector.findAnswers request).outcome = _ := findAnswers_outcome listed
    rw [begins, ok_bind, found.ask_outcome, Pass.reading_fst, unbound] at outcome
    simp only [fill, outcome]
    rfl

end FirstChain

/-- What is wanted of the lookup paths that the queries bind, where a router answers: they are its
own, and without one of its own the queries fail. -/
structure OwnLookupOnly (introspector : Introspector) (store : Store) (request : Request)
    (found : FirstChain recorded first) : Prop where
  own_of_binds : ∀ {router matcher path},
    introspector.Binds store request (.resolved router matcher path) → StoresLookup found.own path
  refuses : (∀ path, ¬ StoresLookup found.own path) → introspector.RefusesLookup store request

section OwnLookup

variable (wellFormed : ∀ member ∈ recorded, member.entry.WellFormed)
  (listed : introspector.registry.entries? = some (recorded.map (·.entry)))
  (fresh : store.remembered? request = none)

include wellFormed listed fresh

/-- A lookup path that is bound is the last one that the routers asked in the pass have stored, up
to the one that answers. -/
theorem stored_of_binds {router : Router} {matcher : Matcher} {path : String}
    (binds : introspector.Binds store request (.resolved router matcher path)) :
    ∃ first, introspector.firstProbe (recorded.map (·.entry)) request = .ok first ∧
      ∃ found : FirstChain recorded first, found.router = router ∧
        router.patternOptions? = none ∧ StoresLookup (found.earlier ++ found.own) path := by
  obtain ⟨first, begins, ⟨found⟩⟩ := firstChain_of_binds listed fresh binds
  have binding := bind_of_binds listed fresh begins found binds
  obtain ⟨_, _, _, _, ⟨⟩⟩ | ⟨uncached, _, _, _, left, ⟨⟩⟩ := RegisteredRouter.bind_eq_ok_iff.mp binding
  have undeclared := (wellFormed _ found.mem).options_eq
  rw [uncached] at undeclared
  have stored := (found.lookupPath?_eq_some_iff (attribute?_firstProbe begins)).mp left
  exact ⟨first, begins, found, rfl, undeclared.symm, stored⟩

variable (begins : introspector.firstProbe (recorded.map (·.entry)) request = .ok first)
  (found : FirstChain recorded first) (undeclared : found.router.patternOptions? = none)

include begins undeclared

/-- A router that says nothing of a lookup path, behind one that has stored one, is bound to that
path. -/
theorem binds_earlier {matcher : Matcher} (matchable : found.router.matcher = some matcher)
    (silent : lastLeft? AttributeName.lookupPath found.own = none) {path : String}
    (stored : StoresLookup found.earlier path) :
    introspector.Binds store request (.resolved found.router matcher path) := by
  have uncached := (wellFormed _ found.mem).cache_eq_none undeclared
  have left := (found.lookupPath?_eq_some_iff (attribute?_firstProbe begins)).mpr
    (storesLookup_append_iff.mpr (.inr ⟨silent, stored⟩))
  have binding := RegisteredRouter.bind_eq_ok_iff.mpr
    (.inr ⟨uncached, matcher, path, matchable, left, rfl⟩)
  refine .inl ?_
  rw [boundRouter_outcome listed fresh, begins, ok_bind, found.ask_outcome, Pass.reading_fst,
    binding]
  rfl

/-- If whatever has been stored in the pass is the answering router's own, it is all that is ever
bound. -/
theorem ownLookupOnly_of_stored {matcher : Matcher} (matchable : found.router.matcher = some matcher)
    (ownOfStored : ∀ path, StoresLookup (found.earlier ++ found.own) path →
      StoresLookup found.own path) : introspector.OwnLookupOnly store request found := by
  have clean := attribute?_firstProbe begins
  have uncached := (wellFormed _ found.mem).cache_eq_none undeclared
  constructor
  · intro router matcher path binds
    have binding := bind_of_binds listed fresh begins found binds
    obtain ⟨_, _, _, _, ⟨⟩⟩ | ⟨_, _, _, _, left, ⟨⟩⟩ := RegisteredRouter.bind_eq_ok_iff.mp binding
    exact ownOfStored path ((found.lookupPath?_eq_some_iff clean).mp left)
  · intro nothing
    refine refuses_of_bind listed fresh begins found
      (RegisteredRouter.bind_of_no_lookupPath uncached matchable ?_)
    cases left : (found.decisive.entry.leave found.probe).lookupPath? with
    | none => rfl
    | some path =>
      have stored := (found.lookupPath?_eq_some_iff clean).mp left
      exact absurd (ownOfStored path stored) (nothing path)

end OwnLookup

/-- The routers of every registry can be recorded. By any such record, a lookup path that is bound
is the last one that the routers asked in the pass have stored, up to the one that answers. It is
the answering router's own, and without one of its own the queries fail, exactly if that router
writes a lookup path or takes it off, or if those asked before have left none. -/
theorem ownLookupOnly_iff {context : RouterContext} {settings : IntrospectionSettings}
    {earlier later : Store} {entries : List RegisteredRouter}
    (prepared : (Introspector.mk context settings {}).prepare earlier = (.ok introspector, later))
    (listed : introspector.registry.entries? = some entries)
    (fresh : store.remembered? request = none) :
    (∃ recorded : List RecordedEntry, recorded.map (·.entry) = entries) ∧
    ∀ recorded : List RecordedEntry, recorded.map (·.entry) = entries →
      (∀ router matcher path, introspector.Binds store request (.resolved router matcher path) →
        ∃ first, introspector.firstProbe entries request = .ok first ∧
          ∃ found : FirstChain recorded first, found.router = router ∧
            router.patternOptions? = none ∧ StoresLookup (found.earlier ++ found.own) path) ∧
      ∀ first (found : FirstChain recorded first),
        introspector.firstProbe entries request = .ok first →
          found.router.matcher ≠ none → found.router.patternOptions? = none →
            (introspector.OwnLookupOnly store request found ↔
              lastLeft? AttributeName.lookupPath found.own ≠ none ∨
                ∀ path, ¬ StoresLookup found.earlier path) := by
  refine ⟨exists_recorded entries, ?_⟩
  rintro recorded rfl
  have wellFormed : ∀ member ∈ recorded, member.entry.WellFormed := by
    intro member included
    exact wellFormed_of_prepare prepared listed member.entry (List.mem_map_of_mem included)
  refine ⟨fun router matcher path => stored_of_binds wellFormed listed fresh, ?_⟩
  intro first found begins matchable undeclared
  obtain ⟨matcher, matchable⟩ := Option.ne_none_iff_exists'.mp matchable
  constructor
  · intro only
    by_cases silent : lastLeft? AttributeName.lookupPath found.own = none
    · refine .inr fun path stored => ?_
      have own := only.own_of_binds
        (binds_earlier wellFormed listed fresh begins found undeclared matchable silent stored)
      rw [StoresLookup, silent] at own
      contradiction
    · exact .inl silent
  · intro decided
    refine ownLookupOnly_of_stored wellFormed listed fresh begins found undeclared matchable ?_
    intro path stored
    rcases storesLookup_append_iff.mp stored with own | ⟨silent, before⟩
    · exact own
    · rcases decided with written | nothing
      · exact absurd silent written
      · exact absurd before (nothing path)

end Introspector

section

/-- A router for normal forms writes the lookup path of its own, if it can find one. -/
def PatternRouter.lookupWrites (pattern : PatternRouter) (probe : Request) : List AttributeWrite :=
  match pattern.findPath probe with
  | .ok (path, _) => [⟨AttributeName.lookupPath, some (.text path)⟩]
  | .error _ => []

theorem PatternRouter.attributes_eq_lookupWrites {pattern : PatternRouter}
    (mode : pattern.mode = .resolved) (probe : Request) :
    (pattern.toRouter.resolve probe).attributes =
      applyAll (pattern.lookupWrites probe) probe.attributes := by
  change (pattern.resolve probe).attributes = _
  cases found : pattern.findPath probe with
  | error error =>
    simp only [resolve, lookupWrites, found]
    rfl
  | ok result =>
    obtain ⟨path, after⟩ := result
    rw [(resolve_of_findPath found).2]
    obtain ⟨_, _, _, rfl⟩ := (findPath_resolved_iff mode).mp found
    simp only [lookupWrites, found]
    rfl

/-- A router that matches normal forms and never stores one. -/
def silentRouter : Router :=
  RouterScript.toRouter
    { answer := .ok (some ⟨.operation "docs", []⟩), matchable := some none } "docs" 1

/-- A router for normal forms that takes what is below its name, with its writes. -/
private abbrev below (name : String) : RecordedEntry :=
  ⟨⟨(PatternRouter.below name .resolved).toRouter, none⟩, _,
    PatternRouter.attributes_eq_lookupWrites rfl⟩

private abbrev silent : RecordedEntry := ⟨⟨silentRouter, none⟩, fun _ => [], fun _ => rfl⟩

private abbrev plainRequest : Request := { uri := ⟨none, none, "/docs//a;v=1", none⟩ }

private abbrev firstOfPlain : Request :=
  plainRequest.probe (IntrospectionSettings.suppressProbeLogging {})

/-- A context in which a router comes behind one that does not take the request. -/
private abbrev behindApi (second : RecordedEntry) : RouterContext where
  own := { routers := [("api", (below "api").entry.router), ("docs", second.entry.router)] }

/-- Its registry has the two routers on it, and the request comes to the second one. -/
private theorem exists_behindApi (second : RecordedEntry) (later : 0 ≤ second.entry.router.order)
    (undeclared : second.entry.router.patternOptions? = none) (uncached : second.entry.cache = none) :
    ∃ introspector after,
      (Introspector.mk (behindApi second) {} {}).prepare {} = (.ok introspector, after) ∧
        introspector.registry.entries? = some ([below "api", second].map (·.entry)) ∧
        introspector.firstProbe ([below "api", second].map (·.entry)) plainRequest =
          .ok firstOfPlain := by
  have visible : (behindApi second).routers.map (·.2) =
      [(below "api").entry.router, second.entry.router] := by rfl
  obtain ⟨introspector, after, prepared, settings, listed⟩ :=
    Introspector.exists_prepare_in_order visible (by simp) (List.pairwise_pair.mpr later)
      (by simpa using ⟨rfl, undeclared⟩) {} {}
  refine ⟨introspector, after, prepared, ?_, ?_⟩
  · rw [listed]
    simp only [List.map_cons, List.map_nil, ← uncached]
  · rw [Introspector.firstProbe, settings]
    simp [Pass.splitFor, RegisteredRouter.usesParsedPath, uncached]

/-- The second router answers. -/
private def secondChain (second : RecordedEntry) {chain : Chain}
    (answered : second.entry.answer ((below "api").entry.leave firstOfPlain) = .ok (some chain)) :
    FirstChain [below "api", second] firstOfPlain where
  before := [below "api"]
  decisive := second
  after := []
  probe := (below "api").entry.leave firstOfPlain
  chain := chain
  divided := rfl
  passage := .cons (.inl rfl) (.nil _)
  answered := answered

/-- A router that stores its path is bound to that one, whatever was stored in front of it. -/
theorem Introspector.ownLookupOnly_below :
    ∃ introspector after,
      (Introspector.mk (behindApi (below "docs")) {} {}).prepare {} = (.ok introspector, after) ∧
        ∃ found : FirstChain [below "api", below "docs"] firstOfPlain,
          introspector.OwnLookupOnly {} plainRequest found := by
  obtain ⟨introspector, after, prepared, listed, begins⟩ :=
    exists_behindApi (below "docs") (by decide) rfl rfl
  refine ⟨introspector, after, prepared, secondChain (below "docs") rfl, ?_⟩
  have fresh : ({} : Store).remembered? plainRequest = none := by rfl
  obtain ⟨_, holds⟩ := Introspector.ownLookupOnly_iff prepared listed fresh
  refine ((holds _ rfl).2 _ _ begins ?_ rfl).mpr (.inl ?_)
  · exact Option.some_ne_none _
  · exact Option.some_ne_none _

/-- A router that stores none is bound to the path that the router in front of it has stored for
itself, although it ought to be refused. -/
theorem Introspector.ownLookupOnly_not_silent :
    ∃ introspector after,
      (Introspector.mk (behindApi silent) {} {}).prepare {} = (.ok introspector, after) ∧
        ∃ found : FirstChain [below "api", silent] firstOfPlain,
          found.router.patternOptions? = none ∧ found.own = [] ∧
            (∃ bound, (introspector.boundRouter {} plainRequest).1 = .ok (some bound) ∧
              bound.router = found.router ∧ bound.lookup = .resolved "/docs/a") ∧
            ¬ introspector.OwnLookupOnly {} plainRequest found := by
  obtain ⟨introspector, after, prepared, listed, begins⟩ :=
    exists_behindApi silent (by decide) rfl rfl
  have outcome : (introspector.boundRouter {} plainRequest).1 =
      .ok (some (.resolved silentRouter ⟨none, fun request pattern =>
        .ok (some ⟨pattern, request.lookupPath?.getD "<absent>", {}⟩)⟩ "/docs/a")) := by
    rw [Introspector.boundRouter_outcome listed rfl, begins]
    rfl
  refine ⟨introspector, after, prepared, secondChain silent rfl, rfl, rfl, ⟨_, outcome, rfl, rfl⟩, ?_⟩
  intro only
  have own : StoresLookup [] "/docs/a" := only.own_of_binds (.inl outcome)
  contradiction

end

end RouteProbe
