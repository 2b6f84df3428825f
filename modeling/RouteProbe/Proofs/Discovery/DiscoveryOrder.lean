import RouteProbe.Proofs.Discovery.RegisteredRouters
import RouteProbe.Proofs.Discovery.Registrations
import RouteProbe.Route.Wrapped

/-! # The order of discovery

A context lists the routers that are visible in it in an order that its history decides on, and its
parents' histories behind that. The registry has the same routers in a stable arrangement by their
order; if none are visible, it has one for each default kind, as the kinds are listed.
-/

namespace RouteProbe

/-- How a context comes about: what routers have been registered in it and in its parents, the
nearest first. -/
inductive RouterContext.Arises : List (List (String × Router)) → RouterContext → Prop
  | empty (custom : CustomFactories) : Arises [[]] { custom }
  | standard (custom : CustomFactories) : Arises [[]] (.standard custom)
  | child {histories : List (List (String × Router))} {parent : RouterContext}
      (before : Arises histories parent) : Arises ([] :: histories) parent.below
  | router {own : List (String × Router)} {inherited : List (List (String × Router))}
      {context : RouterContext} (name : String) (router : Router)
      (before : Arises (own :: inherited) context) :
      Arises ((own ++ [(name, router)]) :: inherited) (context.addRouter name router)
  | handler {histories : List (List (String × Router))} {context : RouterContext} (name : String)
      (handler : Handler) (before : Arises histories context) :
      Arises histories (context.addHandler name handler)
  | factory {histories : List (List (String × Router))} {context : RouterContext} (kind : String)
      (factory : RouterFactory) (before : Arises histories context) :
      Arises histories (context.addFactory kind factory)

/-- On the levels of a context stands what its history and those of its parents leave. -/
theorem RouterContext.Arises.map_routers_levels {histories : List (List (String × Router))}
    {context : RouterContext} (arises : context.Arises histories) :
    context.toList.map (·.routers) = histories.map Registrations.ofHistory := by
  induction arises with
  | empty | standard => rfl
  | child _ ih => exact congrArg (List.cons []) ih
  | router name router _ ih =>
    obtain ⟨near, far⟩ := List.cons.inj ih
    rw [List.map_cons, Registrations.ofHistory_concat, ← near, ← far]
    rfl
  | handler _ _ _ ih => exact ih
  | factory _ _ _ ih => exact ih

/-- The listed routers, arranged by their order, those of equal order as they are listed. -/
structure Router.IsArranged (listed arranged : List Router) : Prop where
  perm : arranged.Perm listed
  ascending : arranged.Pairwise fun left right => left.order ≤ right.order
  ties : ∀ order : Int, (arranged.filter fun router => router.order = order) =
    listed.filter fun router => router.order = order

/-- Sorting arranges routers. -/
theorem Router.isArranged_mergeSort (listed : List Router) :
    IsArranged listed (listed.mergeSort isBefore) where
  perm := List.mergeSort_perm listed isBefore
  ascending := by
    have sorted := List.pairwise_mergeSort isBefore_trans isBefore_total listed
    simpa only [isBefore, decide_eq_true_eq] using sorted
  ties := by
    intro order
    -- Routers of one order are sorted already, so that sorting keeps them as a sublist; nothing else
    -- of that order is in the sorted list, since it has as many.
    have tied : (listed.filter fun router => router.order = order).Pairwise
        fun left right => left.isBefore right = true := by
      refine List.pairwise_of_forall_mem_list fun left first right second => ?_
      simp only [List.mem_filter, decide_eq_true_eq] at first second
      simp only [isBefore, decide_eq_true_eq]
      omega
    have kept := List.sublist_mergeSort isBefore_trans isBefore_total tied List.filter_sublist
    have found := kept.filter fun router => router.order = order
    rw [List.filter_filter] at found
    simp only [Bool.and_self] at found
    refine (found.eq_of_length ?_).symm
    exact ((List.mergeSort_perm listed isBefore).filter _).length_eq.symm

section Registries

variable {context : RouterContext} {settings : IntrospectionSettings} {earlier later : Store}
  {introspector : Introspector}

theorem discover_of_no_routers {routers : List Router} {notice : Notice}
    (bare : context.routers = []) :
    discover context settings = .ok (routers, notice) ↔
      settings.routerKinds.mapM context.createRouter = .ok routers ∧
        Notice.usingDefaultRouters settings.routerKinds = notice := by
  simp only [discover, bare, List.map_nil, bind_eq_ok_iff, pure_eq_ok_iff, Prod.mk.injEq]
  constructor
  · rintro ⟨_, created, rfl, told⟩
    exact ⟨created, told⟩
  · rintro ⟨created, told⟩
    exact ⟨routers, created, rfl, told⟩

theorem Introspector.exists_prepare_iff :
    (∃ introspector later,
        (Introspector.mk context settings {}).prepare earlier = (.ok introspector, later)) ↔
      context.routers ≠ [] ∨
        ∀ kind ∈ settings.routerKinds, ∃ router, context.createRouter kind = .ok router := by
  by_cases bare : context.routers = []
  · rw [or_iff_right (not_not_intro bare), ← exists_mapM_eq_ok_iff]
    constructor
    · rintro ⟨_, _, prepared⟩
      obtain ⟨routers, _, discovered, _⟩ := prepare_eq_ok prepared
      exact ⟨routers, ((discover_of_no_routers bare).mp discovered).1⟩
    · rintro ⟨_, created⟩
      exact ⟨_, _, prepare_of_discover ((discover_of_no_routers bare).mpr ⟨created, rfl⟩)⟩
  · exact iff_of_true (exists_prepare bare settings earlier) (.inl bare)

variable
  (prepared : (Introspector.mk context settings {}).prepare earlier = (.ok introspector, later))

include prepared

theorem Introspector.routers_of_prepare :
    ∃ notice, discover context settings = .ok (introspector.registry.routers, notice) := by
  obtain ⟨routers, notice, discovered, rfl, _⟩ := prepare_eq_ok prepared
  refine ⟨notice, ?_⟩
  rw [discovered, RouterRegistry.routers, Option.getD_some, register_routers]

theorem Introspector.isArranged_of_prepare (registered : context.routers ≠ []) :
    Router.IsArranged (context.routers.map (·.2)) introspector.registry.routers := by
  obtain ⟨_, discovered⟩ := routers_of_prepare prepared
  obtain ⟨_, sorted⟩ := discover_of_routers registered settings
  obtain ⟨same, _⟩ := Prod.mk.inj (Except.ok.inj (discovered.symm.trans sorted))
  rw [same]
  exact Router.isArranged_mergeSort _

theorem Introspector.map_createRouter_of_prepare (bare : context.routers = []) :
    settings.routerKinds.map context.createRouter = introspector.registry.routers.map .ok := by
  obtain ⟨_, discovered⟩ := routers_of_prepare prepared
  exact mapM_eq_ok_iff.mp ((discover_of_no_routers bare).mp discovered).1

end Registries

namespace Introspector

/-- However a context comes about, it lists every visible name once, with the router that the
nearest context to know the name has there last. A registry can be set up for it unless there are
none and a default kind cannot be made; it has these routers arranged by their order or, if there
are none, the routers made for the default kinds. -/
theorem routers_of_arises {histories : List (List (String × Router))} {context : RouterContext}
    (arises : context.Arises histories) :
    context.routers.map (·.1) = Registrations.visibleNames histories ∧
      (context.routers.map (·.1)).Nodup ∧
      (∀ name router, (name, router) ∈ context.routers ↔
        Registrations.IsVisible histories name router) ∧
      ∀ settings earlier,
        ((∃ introspector later,
            (Introspector.mk context settings {}).prepare earlier = (.ok introspector, later)) ↔
          context.routers ≠ [] ∨
            ∀ kind ∈ settings.routerKinds, ∃ router, context.createRouter kind = .ok router) ∧
        ∀ introspector later,
          (Introspector.mk context settings {}).prepare earlier = (.ok introspector, later) →
            (context.routers ≠ [] →
              Router.IsArranged (context.routers.map (·.2)) introspector.registry.routers) ∧
            (context.routers = [] → settings.routerKinds.map context.createRouter =
              introspector.registry.routers.map .ok) := by
  have levels : context.routers =
      Registrations.visible (histories.map Registrations.ofHistory) := by
    rw [ContextLevels.routers, arises.map_routers_levels]
  refine ⟨?_, ?_, ?_, ?_⟩
  · rw [levels, Registrations.map_fst_visible]
  · rw [levels]
    exact Registrations.nodup_visible histories
  · intro name router
    rw [levels, Registrations.mem_visible_iff]
  · intro settings earlier
    refine ⟨exists_prepare_iff, ?_⟩
    intro introspector later prepared
    exact ⟨isArranged_of_prepare prepared, map_createRouter_of_prepare prepared⟩

section

private abbrev greedy (name : String) (order : Int) : Router := .always name order ⟨.operation name, []⟩

private abbrev rootContext : RouterContext :=
  (RouterContext.standard.addRouter "api" (greedy "api" 0)).addRouter "docs" (greedy "docs" 0)

/-- A context that hides one router of its parent, by its second registration under that name. -/
private abbrev branchContext : RouterContext :=
  ((rootContext.below.addRouter "api" (greedy "draft" 0)).addRouter
    "wiki" (greedy "wiki" (-1))).addRouter "api" (greedy "branch" 0)

private theorem branchContext_arises : branchContext.Arises
    [[("api", greedy "draft" 0), ("wiki", greedy "wiki" (-1)), ("api", greedy "branch" 0)],
      [("api", greedy "api" 0), ("docs", greedy "docs" 0)]] :=
  .router _ _ (.router _ _ (.router _ _ (.child (.router _ _ (.router _ _ (.standard _))))))

/-- The second registration counts, in the place of the first one and in front of the router of the
parent that has the same order. -/
theorem routers_of_arises_branch :
    ∃ introspector later,
      (Introspector.mk branchContext {} {}).prepare {} = (.ok introspector, later) ∧
        branchContext.routers.map (·.1) = ["api", "wiki", "docs"] ∧
        (introspector.registry.routers.filter fun router => router.order = 0).map (·.name) =
          ["branch", "docs"] := by
  obtain ⟨names, _, _, registries⟩ := routers_of_arises branchContext_arises
  have registered : branchContext.routers ≠ [] := by
    intro empty
    rw [empty] at names
    contradiction
  obtain ⟨prepares, arranges⟩ := registries {} {}
  obtain ⟨introspector, later, prepared⟩ := prepares.mpr (.inl registered)
  obtain ⟨arranged, _⟩ := arranges introspector later prepared
  refine ⟨introspector, later, prepared, names.trans rfl, ?_⟩
  rw [(arranged registered).ties]
  rfl

end

end Introspector

end RouteProbe
