import RouteProbe.Proofs.Lookup.Evolution

/-! # What introspection does to the store

Setting registries up, asking, filling requests in and matching patterns all let the store evolve
and do nothing else to it. A router that is found for a request has been bound in a pass about it,
or is one that was kept.
-/

namespace RouteProbe

/-- The caches of the routers in a registry. -/
def RouterRegistry.caches (registry : RouterRegistry) : List PatternCache :=
  (registry.entries?.getD []).filterMap (·.cache)

theorem register_evolves (limit : UInt64) (routers : List Router) (caches : List PatternCache)
    (store : Store) :
    Store.Evolves caches store
      (caches ++ (register limit routers store).1.filterMap (·.cache))
      (register limit routers store).2 := by
  induction routers generalizing caches store with
  | nil =>
    simp only [register, List.filterMap_nil, List.append_nil]
    exact .refl
  | cons router rest ih =>
    have first : Store.Evolves caches store (caches ++ (store.addCache router limit).1.toList)
        (store.addCache router limit).2 := (Store.Step.addCache router limit).evolves
    have later := ih (caches ++ (store.addCache router limit).1.toList)
      (store.addCache router limit).2
    rw [register_cons]
    have together : caches ++ List.filterMap (·.cache)
        (⟨router, (store.addCache router limit).1⟩ ::
          (register limit rest (store.addCache router limit).2).1) =
        caches ++ (store.addCache router limit).1.toList ++
          List.filterMap (·.cache) (register limit rest (store.addCache router limit).2).1 := by
      rw [List.filterMap_cons]
      cases (store.addCache router limit).1 <;> simp
    rw [together]
    exact first.trans later

namespace Introspector

variable {introspector : Introspector} {context : RouterContext} {settings : IntrospectionSettings}
  {caches : List PatternCache} {store after : Store} {request : Request} {bound : BoundRouter}
  {entries : List RegisteredRouter}

/-- A registry that is set up adds its caches. -/
theorem prepare_evolves
    (prepared : (Introspector.mk context settings {}).prepare store = (.ok introspector, after)) :
    Store.Evolves caches store (caches ++ introspector.registry.caches) after := by
  obtain ⟨routers, notice, _, rfl, rfl⟩ := prepare_eq_ok prepared
  have noticed : Store.Evolves caches store caches (store.notify notice) :=
    (Store.Step.record [.notice notice]).evolves
  exact noticed.trans (register_evolves settings.patternCacheLimit routers caches _)

/-- A query leaves nothing but its journal in the store. -/
theorem boundRouter_evolves (introspector : Introspector) (caches : List PatternCache)
    (store : Store) (request : Request) :
    Store.Evolves caches store caches (introspector.boundRouter store request).2 := by
  unfold boundRouter
  split
  · exact .refl
  · exact (Store.Step.record _).evolves

theorem corsPolicy_evolves (introspector : Introspector) (caches : List PatternCache)
    (store : Store) (request : Request) :
    Store.Evolves caches store caches (introspector.corsPolicy store request).2 := by
  unfold corsPolicy
  split
  · exact .refl
  · exact (Store.Step.record _).evolves

theorem isBoundIn_of_found {α : Type} {extract : Pass.Extractor α} {value : α}
    (wellFormed : ∀ entry ∈ entries, entry.WellFormed)
    (found : introspector.firstProbe entries request >>= (fun first =>
      (Pass.ask false extract entries first).outcome) = .ok (some value))
    (binds : ∀ entry chain probe, (extract entry chain probe).1 = .ok value →
      entry.bind probe = .ok bound) :
    (∃ probe chain, bound.IsBoundIn request probe chain) ∧
      bound.KnownTo (entries.filterMap (·.cache)) := by
  obtain ⟨first, begins, asked⟩ := bind_eq_ok_iff.mp found
  obtain ⟨before, entry, behind, probe, chain, rfl, passage, answered, extracted⟩ :=
    Pass.ask_eq_found asked
  have binding := binds _ _ _ extracted
  have member : entry ∈ before ++ entry :: behind := by simp
  refine ⟨⟨probe, chain, .intro (wellFormed entry member) begins passage answered binding⟩, ?_⟩
  intro cache same
  rw [RegisteredRouter.cache?_of_bind binding] at same
  exact List.mem_filterMap.mpr ⟨entry, member, same⟩

/-- A router that is found for a request without a remembered answer has been bound in a pass about
that request. -/
theorem isBoundIn_of_boundRouter (wellFormed : ∀ entry ∈ entries, entry.WellFormed)
    (listed : introspector.registry.entries? = some entries)
    (fresh : store.remembered? request = none)
    (asked : (introspector.boundRouter store request).1 = .ok (some bound)) :
    (∃ probe chain, bound.IsBoundIn request probe chain) ∧
      bound.KnownTo introspector.registry.caches := by
  rw [boundRouter_outcome listed fresh] at asked
  rw [RouterRegistry.caches, listed]
  exact isBoundIn_of_found wellFormed asked fun _ _ _ binding => binding

/-- Filling a request in keeps the router that has been bound for it. -/
theorem fill_evolves (wellFormed : ∀ entry ∈ entries, entry.WellFormed)
    (listed : introspector.registry.entries? = some entries)
    (known : ∀ cache ∈ introspector.registry.caches, cache ∈ caches) (store : Store)
    (request : Request) :
    Store.Evolves caches store caches (introspector.fill store request).2 := by
  have recorded : Store.Evolves caches store caches
      (store.record (introspector.findAnswers request).journal) := (Store.Step.record _).evolves
  cases outcome : (introspector.findAnswers request).outcome with
  | error error =>
    simp only [fill, outcome]
    exact .step recorded (.record _)
  | ok answers =>
    cases answers with
    | none =>
      simp only [fill, outcome]
      exact recorded
    | some answer =>
      obtain ⟨bound, policy⟩ := answer
      have found := outcome
      rw [findAnswers_outcome listed] at found
      obtain ⟨⟨probe, chain, made⟩, cached⟩ := isBoundIn_of_found wellFormed found
        fun entry chain probe => RegisteredRouter.bind_of_answers
      simp only [fill, outcome]
      refine .step recorded (.keep made fun cache same => known cache ?_)
      rw [RouterRegistry.caches, listed]
      exact cached cache same

/-- An introspector as it is found beside a store: new, or with a registry that was set up beside an
earlier store. -/
inductive ArisesIn : Introspector → List PatternCache → Store → Prop
  | new {caches : List PatternCache} {store : Store} (context : RouterContext)
      (settings : IntrospectionSettings) (reached : Store.Evolves [] {} caches store) :
      ArisesIn ⟨context, settings, {}⟩ caches store
  | prepared {introspector : Introspector} {context : RouterContext} {settings : IntrospectionSettings}
      {known caches : List PatternCache} {earlier begun store : Store}
      (reached : Store.Evolves [] {} known earlier)
      (prepared : (Introspector.mk context settings {}).prepare earlier = (.ok introspector, begun))
      (meanwhile : Store.Evolves (known ++ introspector.registry.caches) begun caches store) :
      ArisesIn introspector caches store

theorem ArisesIn.reached (arises : introspector.ArisesIn caches store) :
    Store.Evolves [] {} caches store := by
  cases arises with
  | new _ _ reached => exact reached
  | prepared reached prepared meanwhile =>
    exact (reached.trans (prepare_evolves prepared)).trans meanwhile

/-- Where an introspector has a registry, all its entries are well-formed, and their caches known.
-/
theorem ArisesIn.registry (arises : introspector.ArisesIn caches store)
    (listed : introspector.registry.entries? = some entries) :
    (∀ entry ∈ entries, entry.WellFormed) ∧
      ∀ cache ∈ introspector.registry.caches, cache ∈ caches := by
  cases arises with
  | new => cases listed
  | prepared _ prepared meanwhile =>
    refine ⟨wellFormed_of_prepare prepared listed, fun cache member => ?_⟩
    exact meanwhile.subset cache (List.mem_append_right _ member)

theorem exists_listed_of_boundRouter (fresh : store.remembered? request = none)
    (asked : (introspector.boundRouter store request).1 = .ok (some bound)) :
    ∃ entries, introspector.registry.entries? = some entries := by
  cases listed : introspector.registry.entries? with
  | some entries => exact ⟨entries, rfl⟩
  | none =>
    simp only [boundRouter, fresh, resolve, pass, Pass.run, RouterRegistry.require, listed] at asked
    cases asked

end Introspector

/-- Matching a pattern by a bound router at most adds the pattern to its table. -/
theorem BoundRouter.matchBound_evolves {bound : BoundRouter} {caches : List PatternCache}
    (known : bound.KnownTo caches) (store : Store) (request : Request) (pattern : String) :
    Store.Evolves caches store caches (bound.matchBound store request pattern).2.1 := by
  cases bound with
  | resolved router matcher path => exact .refl
  | parsed cache path => exact (Store.Step.matchStored (known cache rfl) _ _).evolves

end RouteProbe
