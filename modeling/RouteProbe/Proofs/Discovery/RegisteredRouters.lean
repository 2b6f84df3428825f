import RouteProbe.Lookup.Introspector
import RouteProbe.Proofs.Results

/-! # How registries are set up

The routers of a context come in the registry sorted by their order, those of equal order as the
context lists them. A router that says how its patterns are read, and no other, gets a pattern
table, and its patterns are read that way.
-/

namespace RouteProbe

/-- An entry as it comes in a registry. -/
structure RegisteredRouter.WellFormed (entry : RegisteredRouter) : Prop where
  options_eq : entry.cache.map (·.options) = entry.router.patternOptions?
  router_eq : ∀ {cache}, entry.cache = some cache → cache.router = entry.router

theorem RegisteredRouter.WellFormed.cache_eq_none {entry : RegisteredRouter}
    (wellFormed : entry.WellFormed)
    (undeclared : entry.router.patternOptions? = none) : entry.cache = none := by
  have declared := wellFormed.options_eq
  rw [undeclared] at declared
  exact Option.map_eq_none_iff.mp declared

/-- A router that says how its patterns are read wants the path to be split. -/
theorem RegisteredRouter.WellFormed.usesParsedPath {entry : RegisteredRouter}
    (wellFormed : entry.WellFormed)
    (declared : entry.router.patternOptions?.isSome = true) : entry.usesParsedPath = true := by
  rwa [← wellFormed.options_eq, Option.isSome_map] at declared

section Register

variable (limit : UInt64) (routers : List Router) (store : Store)

theorem addCache_wellFormed (router : Router) :
    RegisteredRouter.WellFormed ⟨router, (store.addCache router limit).1⟩ := by
  unfold Store.addCache
  cases declared : router.patternOptions? with
  | none =>
    refine ⟨declared.symm, ?_⟩
    intro cache impossible
    cases impossible
  | some options =>
    refine ⟨declared.symm, ?_⟩
    rintro cache same
    obtain rfl := Option.some.inj same
    rfl

theorem register_cons (router : Router) (rest : List Router) :
    register limit (router :: rest) store =
      (⟨router, (store.addCache router limit).1⟩ ::
          (register limit rest (store.addCache router limit).2).1,
        (register limit rest (store.addCache router limit).2).2) := rfl

/-- Every router gets an entry, in the same order. -/
theorem register_routers : (register limit routers store).1.map (·.router) = routers := by
  induction routers generalizing store with
  | nil => rfl
  | cons router rest ih => rw [register_cons, List.map_cons, ih]

theorem register_wellFormed : ∀ entry ∈ (register limit routers store).1, entry.WellFormed := by
  induction routers generalizing store with
  | nil => simp [register]
  | cons router rest ih =>
    rw [register_cons]
    intro entry member
    rcases List.mem_cons.mp member with rfl | member
    · exact addCache_wellFormed limit store router
    · exact ih _ entry member

theorem register_of_undeclared (undeclared : ∀ router ∈ routers, router.patternOptions? = none) :
    register limit routers store = (routers.map fun router => ⟨router, none⟩, store) := by
  induction routers with
  | nil => rfl
  | cons router rest ih =>
    have bare := undeclared router List.mem_cons_self
    have unchanged : store.addCache router limit = (none, store) := by
      simp only [Store.addCache, bare]
    have later := ih fun other member => undeclared other (List.mem_cons_of_mem router member)
    rw [register_cons, unchanged, later, List.map_cons]

end Register

section Prepare

variable {context : RouterContext} {settings : IntrospectionSettings} {store after : Store}
  {routers : List Router} {notice : Notice} {introspector : Introspector}

theorem Introspector.prepare_of_discover
    (discovered : discover context settings = .ok (routers, notice)) :
    (Introspector.mk context settings {}).prepare store =
      (.ok ⟨context, settings,
          ⟨some (register settings.patternCacheLimit routers (store.notify notice)).1⟩⟩,
        (register settings.patternCacheLimit routers (store.notify notice)).2) := by
  simp only [prepare, RouterRegistry.prepare, discovered]
  rfl

theorem Introspector.prepare_eq_ok
    (prepared : (Introspector.mk context settings {}).prepare store = (.ok introspector, after)) :
    ∃ routers notice, discover context settings = .ok (routers, notice) ∧
      introspector = ⟨context, settings,
        ⟨some (register settings.patternCacheLimit routers (store.notify notice)).1⟩⟩ ∧
      after = (register settings.patternCacheLimit routers (store.notify notice)).2 := by
  cases found : discover context settings with
  | error error =>
    simp only [prepare, RouterRegistry.prepare, found, Prod.mk.injEq] at prepared
    cases prepared.1
  | ok discovered =>
    obtain ⟨routers, notice⟩ := discovered
    rw [prepare_of_discover found] at prepared
    obtain ⟨same, rfl⟩ := Prod.mk.inj prepared
    exact ⟨routers, notice, rfl, (Except.ok.inj same).symm, rfl⟩

theorem Introspector.wellFormed_of_prepare
    (prepared : (Introspector.mk context settings {}).prepare store = (.ok introspector, after))
    {entries : List RegisteredRouter} (listed : introspector.registry.entries? = some entries) :
    ∀ entry ∈ entries, entry.WellFormed := by
  obtain ⟨routers, notice, _, rfl, _⟩ := prepare_eq_ok prepared
  obtain rfl := Option.some.inj listed
  exact register_wellFormed _ _ _

theorem Introspector.exists_entries_of_prepare
    (prepared : (Introspector.mk context settings {}).prepare store = (.ok introspector, after)) :
    ∃ entries, introspector.registry.entries? = some entries ∧ (∀ entry ∈ entries, entry.WellFormed) ∧
      entries.map (·.router) = introspector.registry.routers := by
  obtain ⟨routers, notice, _, made, _⟩ := prepare_eq_ok prepared
  obtain ⟨entries, listed⟩ : ∃ entries, introspector.registry.entries? = some entries :=
    ⟨_, by rw [made]⟩
  refine ⟨entries, listed, wellFormed_of_prepare prepared listed, ?_⟩
  rw [RouterRegistry.routers, listed, Option.getD_some]

end Prepare

/-- Whether a router is asked before another one if the order of the two decides. -/
def Router.isBefore (left right : Router) : Bool := decide (left.order ≤ right.order)

theorem Router.isBefore_trans (a b c : Router) : a.isBefore b → b.isBefore c → a.isBefore c := by
  simp only [isBefore, decide_eq_true_eq]
  omega

theorem Router.isBefore_total (a b : Router) : a.isBefore b || b.isBefore a := by
  simp only [isBefore, Bool.or_eq_true, decide_eq_true_eq]
  omega

theorem discover_of_routers {context : RouterContext} (registered : context.routers ≠ [])
    (settings : IntrospectionSettings) :
    ∃ notice, discover context settings =
      .ok ((context.routers.map (·.2)).mergeSort Router.isBefore, notice) := by
  unfold discover
  split
  next empty => exact absurd (List.map_eq_nil_iff.mp empty) registered
  next first rest nonempty =>
    rw [nonempty]
    exact ⟨_, rfl⟩

/-- A registry can always be set up for a context that has routers. -/
theorem Introspector.exists_prepare {context : RouterContext} (registered : context.routers ≠ [])
    (settings : IntrospectionSettings) (store : Store) :
    ∃ introspector after,
      (Introspector.mk context settings {}).prepare store = (.ok introspector, after) := by
  obtain ⟨notice, discovered⟩ := discover_of_routers registered settings
  exact ⟨_, _, prepare_of_discover discovered⟩

/-- Routers without pattern tables that are registered in order come in the registry as they are. -/
theorem Introspector.exists_prepare_in_order {context : RouterContext} {routers : List Router}
    (visible : context.routers.map (·.2) = routers) (nonempty : routers ≠ [])
    (inOrder : routers.Pairwise fun left right => left.order ≤ right.order)
    (undeclared : ∀ router ∈ routers, router.patternOptions? = none)
    (settings : IntrospectionSettings) (store : Store) :
    ∃ introspector after,
      (Introspector.mk context settings {}).prepare store = (.ok introspector, after) ∧
        introspector.settings = settings ∧
        introspector.registry.entries? = some (routers.map fun router => ⟨router, none⟩) := by
  have registered : context.routers ≠ [] := by
    rintro empty
    rw [empty] at visible
    exact nonempty visible.symm
  obtain ⟨notice, discovered⟩ := discover_of_routers registered settings
  have sorted : routers.mergeSort Router.isBefore = routers := by
    apply List.mergeSort_of_pairwise
    simpa only [Router.isBefore, decide_eq_true_eq] using inOrder
  rw [visible, sorted] at discovered
  refine ⟨_, _, prepare_of_discover discovered, rfl, ?_⟩
  rw [register_of_undeclared _ _ _ undeclared]

/-- The first router in the order of asking that has some property is the least one that has it, by
order and then by place. -/
theorem first_of_mergeSort {routers before after : List Router} {router : Router}
    (sorted : routers.mergeSort Router.isBefore = before ++ router :: after) (Apt : Router → Prop)
    (apt : Apt router) (earlier : ∀ other ∈ before, ¬ Apt other) :
    ∃ place, routers[place]? = some router ∧
      ∀ other (elsewhere : Nat), routers[elsewhere]? = some other → Apt other →
        router.order < other.order ∨ router.order = other.order ∧ place ≤ elsewhere := by
  -- The numbered routers are sorted in the same way, and their numbers say what ties come to.
  have ranked := List.pairwise_mergeSort (List.zipIdxLE_trans Router.isBefore_trans)
    (List.zipIdxLE_total Router.isBefore_total) routers.zipIdx
  rw [← List.mergeSort_zipIdx] at sorted
  obtain ⟨front, back, split, rfl, tail⟩ := List.map_eq_append_iff.mp sorted
  obtain ⟨⟨leader, place⟩, later, rfl, same, rfl⟩ := List.map_eq_cons_iff.mp tail
  obtain rfl : leader = router := same
  rw [split] at ranked
  have numbered : ∀ {other : Router} {number : Nat}, routers[number]? = some other ↔
      (other, number) ∈ front ++ (leader, place) :: later := by
    intro other number
    rw [← split, List.mem_mergeSort, List.mk_mem_zipIdx_iff_getElem?]
  refine ⟨place, numbered.mpr (by simp), ?_⟩
  intro other elsewhere found otherApt
  rcases List.mem_append.mp (numbered.mp found) with skipped | member
  · exact absurd otherApt (earlier other (List.mem_map_of_mem skipped))
  rcases List.mem_cons.mp member with same | behind
  · obtain ⟨rfl, rfl⟩ := Prod.mk.inj same
    exact .inr ⟨rfl, Nat.le_refl _⟩
  · have rank := (List.pairwise_cons.mp (List.pairwise_append.mp ranked).2.1).1 _ behind
    simp only [List.zipIdxLE, Router.isBefore, decide_eq_true_eq] at rank
    split at rank
    · split at rank
      · have tied := of_decide_eq_true rank
        omega
      · omega
    · contradiction

end RouteProbe
