import RouteProbe.Proofs.Discovery.DiscoveryOrder
import RouteProbe.Proofs.NamedLists
import RouteProbe.Proofs.Route.Plans

/-! # Which factory makes a router

A factory is found like everything that is registered: the nearest context that has one for the kind
decides, with the one that it has there last. It makes its router for the context that was asked,
not for the one that has it. The bundled factory of routers by handler names makes one exactly if
all these names that are paths are patterns.
-/

namespace RouteProbe

theorem Registrations.findSome?_get?_eq_some_iff {α : Type} {histories : List (List (String × α))}
    {name : String} {item : α} :
    (histories.map ofHistory).findSome? (·.get? name) = some item ↔ IsVisible histories name item := by
  induction histories with
  | nil => exact ⟨nofun, nofun⟩
  | cons own inherited ih =>
    have latest : ∀ {item}, (ofHistory own).get? name = some item ↔ IsLatest own name item := by
      intro item
      rw [get?, lookup_eq_some_iff_mem (nodup_ofHistory own), mem_ofHistory_iff]
    rw [List.map_cons, List.findSome?_cons]
    cases found : (ofHistory own).get? name with
    | some here =>
      have registered : name ∈ own.map (·.1) :=
        mem_map_fst_ofHistory.mp (List.mem_map_of_mem (mem_of_lookup found))
      constructor
      · rintro ⟨⟩
        exact .own (latest.mp found)
      · intro visible
        cases visible with
        | own nearest => exact found.symm.trans (latest.mpr nearest)
        | inherited unregistered _ => exact absurd registered unregistered
    | none =>
      have unregistered : name ∉ own.map (·.1) := by
        rw [← mem_map_fst_ofHistory]
        exact lookup_eq_none_iff.mp found
      rw [ih]
      constructor
      · exact .inherited unregistered
      · intro visible
        cases visible with
        | own nearest => cases found.symm.trans (latest.mpr nearest)
        | inherited _ visible => exact visible

/-- What has been registered in one context, in the course of time. -/
structure LevelHistory where
  routers : List (String × Router) := []
  handlers : List (String × Handler) := []
  factories : List (String × RouterFactory) := []

def LevelHistory.level (history : LevelHistory) : ContextLevel :=
  ⟨.ofHistory history.routers, .ofHistory history.handlers, .ofHistory history.factories⟩

/-- Whether what a factory is given is all that certain histories have left: their levels, and what
is visible through them. -/
structure ContextLevels.IsOf (levels : ContextLevels) (histories : List LevelHistory) : Prop where
  listed : levels.toList = histories.map LevelHistory.level
  routerNames : levels.routers.map (·.1) = Registrations.visibleNames (histories.map (·.routers))
  routers : ∀ name router, (name, router) ∈ levels.routers ↔
    Registrations.IsVisible (histories.map (·.routers)) name router
  handlerNames : levels.handlers.map (·.1) = Registrations.visibleNames (histories.map (·.handlers))
  handlers : ∀ name handler, (name, handler) ∈ levels.handlers ↔
    Registrations.IsVisible (histories.map (·.handlers)) name handler
  factories : ∀ kind factory, levels.factory? kind = some factory ↔
    Registrations.IsVisible (histories.map (·.factories)) kind factory

namespace RouterContext

/-- How a context comes about: what has been registered in it and in its parents, the
nearest first. -/
inductive IsBuiltBy : List LevelHistory → RouterContext → Prop
  | empty (custom : CustomFactories) : IsBuiltBy [{}] { custom }
  | standard (custom : CustomFactories) : IsBuiltBy [{ factories :=
      [(handlerNameKind, .handlerName), (pathPatternKind, .pathPattern)] }] (.standard custom)
  | child {histories : List LevelHistory} {parent : RouterContext}
      (before : IsBuiltBy histories parent) :
      IsBuiltBy ({} :: histories) parent.below
  | router {own : LevelHistory} {inherited : List LevelHistory} {context : RouterContext} (name : String)
      (router : Router) (before : IsBuiltBy (own :: inherited) context) :
      IsBuiltBy ({ own with routers := own.routers ++ [(name, router)] } :: inherited)
        (context.addRouter name router)
  | handler {own : LevelHistory} {inherited : List LevelHistory} {context : RouterContext}
      (name : String) (handler : Handler) (before : IsBuiltBy (own :: inherited) context) :
      IsBuiltBy ({ own with handlers := own.handlers ++ [(name, handler)] } :: inherited)
        (context.addHandler name handler)
  | factory {own : LevelHistory} {inherited : List LevelHistory} {context : RouterContext}
      (kind : String) (factory : RouterFactory) (before : IsBuiltBy (own :: inherited) context) :
      IsBuiltBy ({ own with factories := own.factories ++ [(kind, factory)] } :: inherited)
        (context.addFactory kind factory)

variable {histories : List LevelHistory} {context : RouterContext} {kind : String}
  {factory : RouterFactory}

namespace IsBuiltBy

theorem levels_eq (built : context.IsBuiltBy histories) :
    context.toList = histories.map LevelHistory.level := by
  induction built with
  | empty | standard => rfl
  | child _ ih => exact congrArg (List.cons {}) ih
  | router _ _ _ ih | handler _ _ _ ih | factory _ _ _ ih =>
    obtain ⟨near, far⟩ := List.cons.inj ih
    simp only [List.map_cons, LevelHistory.level, Registrations.ofHistory_concat, ← far]
    simp only [ContextLevels.toList, addRouter, addHandler, addFactory, near, LevelHistory.level]

/-- The parent of a context is what its own history and those behind it have left. -/
theorem exists_parent {own next : LevelHistory} {inherited : List LevelHistory}
    (built : context.IsBuiltBy (own :: next :: inherited)) :
    ∃ parent, context.parent? = some parent ∧ parent.custom = context.custom ∧
      parent.IsBuiltBy (next :: inherited) := by
  generalize same : own :: next :: inherited = histories at built
  induction built generalizing own with
  | empty | standard => cases same
  | child before _ =>
    obtain ⟨_, rfl⟩ := List.cons.inj same
    exact ⟨_, rfl, rfl, before⟩
  | router _ _ _ ih | handler _ _ _ ih | factory _ _ _ ih =>
    obtain ⟨_, rfl⟩ := List.cons.inj same
    exact ih rfl

variable (built : context.IsBuiltBy histories)

include built

theorem routers_eq : context.routers =
    Registrations.visible ((histories.map (·.routers)).map Registrations.ofHistory) := by
  rw [ContextLevels.routers, built.levels_eq, List.map_map, List.map_map]
  rfl

theorem handlers_eq : context.handlers =
    Registrations.visible ((histories.map (·.handlers)).map Registrations.ofHistory) := by
  rw [ContextLevels.handlers, built.levels_eq, List.map_map, List.map_map]
  rfl

theorem factory?_eq_some_iff : context.factory? kind = some factory ↔
    Registrations.IsVisible (histories.map (·.factories)) kind factory := by
  rw [← Registrations.findSome?_get?_eq_some_iff, ContextLevels.factory?, built.levels_eq,
    List.findSome?_map, List.findSome?_map, List.findSome?_map]
  rfl

theorem isOf_levels : context.toContextLevels.IsOf histories where
  listed := built.levels_eq
  routerNames := by rw [built.routers_eq, Registrations.map_fst_visible]
  routers name router := by rw [built.routers_eq, Registrations.mem_visible_iff]
  handlerNames := by rw [built.handlers_eq, Registrations.map_fst_visible]
  handlers name handler := by rw [built.handlers_eq, Registrations.mem_visible_iff]
  factories _ _ := built.factory?_eq_some_iff

end IsBuiltBy

/-- The error of a factory that fails, as it is told by the context. -/
def factoryFailed (kind : String) (error : RoutingError) : RoutingError :=
  .configuration (s!"failed to create default router '{kind}': " ++ error.message)

theorem createRouter_of_factory (nearest : context.factory? kind = some factory) :
    context.createRouter kind = (factory.make context).mapError (factoryFailed kind) := by
  simp only [createRouter, nearest]
  rfl

/-- The error of a context that has no factory for a kind. -/
def factoryMissing (kind : String) : RoutingError :=
  .configuration s!"no router factory registered for kind '{kind}'"

theorem createRouter_of_missing (missing : context.factory? kind = none) :
    context.createRouter kind = .error (factoryMissing kind) := by
  simp only [createRouter, missing]
  rfl

/-- Whatever goes wrong is told as a wrong configuration. -/
theorem createRouter_error {error : RoutingError} (failed : context.createRouter kind = .error error) :
    ∃ message, error = .configuration message := by
  cases nearest : context.factory? kind with
  | none =>
    rw [createRouter_of_missing nearest] at failed
    exact ⟨_, (Except.error.inj failed).symm⟩
  | some factory =>
    rw [createRouter_of_factory nearest] at failed
    obtain ⟨cause, _, rfl⟩ := mapError_eq_error_iff.mp failed
    exact ⟨_, rfl⟩

end RouterContext

/-- The plan of the router that leads to handlers by those of their names that are paths. -/
def namedPlan (handlers : Registrations Handler) : RouterPlan where
  name := handlerNameKind
  mode := .resolved
  routes := (handlers.filter fun entry => Text.opensWith '/' entry.1).map
    fun entry => ⟨entry.1, entry.2, none⟩

theorem routes_namedPlan_cons (name : String) (handler : Handler) (rest : Registrations Handler) :
    (namedPlan ((name, handler) :: rest)).routes =
      if Text.opensWith '/' name = true then ⟨name, handler, none⟩ :: (namedPlan rest).routes
      else (namedPlan rest).routes := by
  unfold namedPlan
  rw [List.filter_cons]
  split <;> rfl

def blankRouter : PatternRouter := ⟨pathPatternKind, Router.lastOrder, .parsed {}, [], []⟩

theorem pathPatternRouter_eq : pathPatternRouter = .ok blankRouter.toRouter := rfl

theorem handlerNameRouter_eq_ok_iff {levels : ContextLevels} {router : Router} :
    handlerNameRouter levels = .ok router ↔
      ∃ named, (namedPlan levels.handlers).build = .ok named ∧ named.toRouter = router := by
  change ((namedPlan levels.handlers).build >>= fun named => pure named.toRouter) = .ok router ↔ _
  simp only [bind_eq_ok_iff, pure_eq_ok_iff]

theorem fullPattern_of_opensWith {name : String} (opens : Text.opensWith '/' name = true) :
    fullPattern name = name :=
  if_pos (.inr (beq_iff_eq.mp opens))

theorem exists_namedPlan_build_iff {handlers : Registrations Handler} :
    (∃ named, (namedPlan handlers).build = .ok named) ↔
      ∀ name ∈ handlers.map (·.1), Text.opensWith '/' name = true → PathPattern.IsPattern {} name := by
  rw [RouterPlan.exists_build_eq_ok_iff]
  simp only [namedPlan, List.forall_mem_map, List.mem_filter, and_imp]
  refine forall₃_congr fun entry _ opens => ?_
  rw [fullPattern_of_opensWith opens]
  rfl

end RouteProbe
