import Mathlib.Data.List.Forall2
import RouteProbe.Proofs.Discovery.RegisteredRouters
import RouteProbe.Proofs.Route.PatternRouters

/-! # Uses of a registry over time

Setting a registry up may be attempted any number of times, with any context and settings, and the
registry may be read at any time. Until an attempt succeeds it is as if none had been made
(`RegistryUse.AnsweredWithout`); the first that does fixes the entries for good
(`RegistryUse.AnsweredWith`). Main statement: what every use is answered, however often the registry
is used (`RegistryUse.answers_applyAll`).
-/

namespace RouteProbe

/-- What is done with a registry, or with the store in the meantime. -/
inductive RegistryUse
  | prepare (context : RouterContext) (settings : IntrospectionSettings)
  | readiness
  | routers
  | entries
  | meanwhile (change : Store → Store)

/-- What comes of using a registry. -/
inductive RegistryAnswer
  | prepared (outcome : Except RoutingError Unit)
  | readiness (ready : Bool)
  | routers (listed : List Router)
  | entries (outcome : Except RoutingError (List RegisteredRouter))
  | nothing

/-- The entries that a context and settings give: one for each router that is discovered, in the
same order, with a cache if the router can match patterns and says how they are read. -/
structure RegisteredRouter.AreRegistered (context : RouterContext) (settings : IntrospectionSettings)
    (entries : List RegisteredRouter) : Prop where
  discovered : ∃ notice, discover context settings = .ok (entries.map (·.router), notice)
  cache_iff : ∀ entry ∈ entries, entry.cache.isSome = true ↔
    ∃ matcher options, entry.router.matcher = some matcher ∧ matcher.options = some options
  cache_eq : ∀ entry ∈ entries, ∀ cache, entry.cache = some cache →
    cache.router = entry.router ∧ entry.router.patternOptions? = some cache.options ∧
      cache.limit = settings.patternCacheLimit

section Preparing

variable {context : RouterContext} {settings : IntrospectionSettings} {error : RoutingError}
  {routers : List Router} {notice : Notice}

theorem RouterContext.exists_configuration_of_createRouter {kind : String}
    (failed : context.createRouter kind = .error error) : ∃ text, error = .configuration text := by
  unfold createRouter at failed
  split at failed
  next => exact ⟨_, (Except.error.inj failed).symm⟩
  next =>
    obtain ⟨cause, _, rfl⟩ := mapError_eq_error_iff.mp failed
    exact ⟨_, rfl⟩

theorem exists_configuration_of_discover (failed : discover context settings = .error error) :
    ∃ text, error = .configuration text := by
  unfold discover at failed
  split at failed
  next =>
    rcases bind_eq_error_iff.mp failed with unmade | ⟨_, _, impossible⟩
    · obtain ⟨_, kind, _, _, _, refused⟩ := mapM_eq_error_iff.mp unmade
      exact RouterContext.exists_configuration_of_createRouter refused
    · cases impossible
  next => cases failed

/-- All caches have room for as many patterns. -/
theorem register_limit (limit : UInt64) (routers : List Router) (store : Store) :
    ∀ entry ∈ (register limit routers store).1, ∀ cache, entry.cache = some cache →
      cache.limit = limit := by
  induction routers generalizing store with
  | nil => simp [register]
  | cons router rest ih =>
    rw [register_cons]
    refine List.forall_mem_cons.mpr ⟨?_, ih _⟩
    intro cache cached
    unfold Store.addCache at cached
    split at cached
    · cases cached
    · obtain rfl := Option.some.inj cached
      rfl

theorem Router.patternOptions?_isSome_iff (router : Router) :
    router.patternOptions?.isSome = true ↔
      ∃ matcher options, router.matcher = some matcher ∧ matcher.options = some options := by
  simp only [patternOptions?, Option.isSome_iff_exists, Option.bind_eq_some_iff]
  exact exists_comm

/-- Registering the routers that are discovered gives the entries. -/
theorem RegisteredRouter.areRegistered_register
    (discovered : discover context settings = .ok (routers, notice))
    (store : Store) :
    AreRegistered context settings (register settings.patternCacheLimit routers store).1 where
  discovered := ⟨notice, by rw [discovered, register_routers]⟩
  cache_iff := by
    intro entry member
    have options := (register_wellFormed _ _ _ entry member).options_eq
    rw [← entry.router.patternOptions?_isSome_iff, ← options, Option.isSome_map]
  cache_eq := by
    intro entry member cache cached
    have wellFormed := register_wellFormed _ _ _ entry member
    refine ⟨wellFormed.router_eq cached, ?_, register_limit _ _ _ entry member cache cached⟩
    rw [← wellFormed.options_eq, cached, Option.map_some]

end Preparing

namespace RegistryUse

/-- The answer to a use, with the registry and the store that it leaves. An attempt to set the
registry up that fails leaves it as it is. -/
def apply (registry : RouterRegistry) (store : Store) :
    RegistryUse → RegistryAnswer × RouterRegistry × Store
  | .prepare context settings =>
    match registry.prepare context settings store with
    | (.ok made, later) => (.prepared (.ok ()), made, later)
    | (.error error, later) => (.prepared (.error error), registry, later)
  | .readiness => (.readiness registry.isReady, registry, store)
  | .routers => (.routers registry.routers, registry, store)
  | .entries => (.entries registry.require, registry, store)
  | .meanwhile change => (.nothing, registry, change store)

/-- The answers to uses in turn, with the registry that they leave. -/
def applyAll (registry : RouterRegistry) (store : Store) :
    List RegistryUse → List RegistryAnswer × RouterRegistry
  | [] => ([], registry)
  | use :: rest =>
    let (answer, registry, store) := use.apply registry store
    let (answers, registry) := applyAll registry store rest
    (answer :: answers, registry)

/-- How a use is answered as long as there are no entries. -/
inductive AnsweredWithout : RegistryUse → RegistryAnswer → Prop
  | prepare {context : RouterContext} {settings : IntrospectionSettings} {text : String}
      (failed : discover context settings = .error (.configuration text)) :
      AnsweredWithout (.prepare context settings) (.prepared (.error (.configuration text)))
  | readiness : AnsweredWithout .readiness (.readiness false)
  | routers : AnsweredWithout .routers (.routers [])
  | entries : AnsweredWithout .entries
      (.entries (.error (.illegalState "router registry has not been initialized" none)))
  | meanwhile (change : Store → Store) : AnsweredWithout (.meanwhile change) .nothing

/-- How a use is answered once there are entries. -/
inductive AnsweredWith (entries : List RegisteredRouter) : RegistryUse → RegistryAnswer → Prop
  | prepare (context : RouterContext) (settings : IntrospectionSettings) :
      AnsweredWith entries (.prepare context settings) (.prepared (.ok ()))
  | readiness : AnsweredWith entries .readiness (.readiness true)
  | routers : AnsweredWith entries .routers (.routers (entries.map (·.router)))
  | entries : AnsweredWith entries .entries (.entries (.ok entries))
  | meanwhile (change : Store → Store) : AnsweredWith entries (.meanwhile change) .nothing

/-- Once there are entries, no use changes them. -/
theorem apply_with (entries : List RegisteredRouter) (store : Store) (use : RegistryUse) :
    ∃ answer later, use.apply ⟨some entries⟩ store = (answer, ⟨some entries⟩, later) ∧
      AnsweredWith entries use answer := by
  cases use with
  | prepare context settings => exact ⟨_, store, rfl, .prepare context settings⟩
  | readiness => exact ⟨_, store, rfl, .readiness⟩
  | routers => exact ⟨_, store, rfl, .routers⟩
  | entries => exact ⟨_, store, rfl, .entries⟩
  | meanwhile change => exact ⟨_, change store, rfl, .meanwhile change⟩

/-- As long as there are no entries, a use leaves none or is an attempt that sets them up. -/
theorem apply_without (store : Store) (use : RegistryUse) :
    (∃ answer later, use.apply {} store = (answer, {}, later) ∧ AnsweredWithout use answer) ∨
      ∃ context settings entries later, use = .prepare context settings ∧
        use.apply {} store = (.prepared (.ok ()), ⟨some entries⟩, later) ∧
        RegisteredRouter.AreRegistered context settings entries := by
  cases use with
  | prepare context settings =>
    cases discovered : discover context settings with
    | error error =>
      left
      obtain ⟨text, rfl⟩ := exists_configuration_of_discover discovered
      refine ⟨_, store, ?_, .prepare discovered⟩
      simp only [apply, RouterRegistry.prepare, discovered]
    | ok found =>
      right
      obtain ⟨routers, notice⟩ := found
      have made := RegisteredRouter.areRegistered_register discovered (store.notify notice)
      have applied : (RegistryUse.prepare context settings).apply {} store =
          (.prepared (.ok ()),
            ⟨some (register settings.patternCacheLimit routers (store.notify notice)).1⟩,
            (register settings.patternCacheLimit routers (store.notify notice)).2) := by
        simp only [apply, RouterRegistry.prepare, discovered]
      exact ⟨context, settings, _, _, rfl, applied, made⟩
  | readiness => exact .inl ⟨_, store, rfl, .readiness⟩
  | routers => exact .inl ⟨_, store, rfl, .routers⟩
  | entries => exact .inl ⟨_, store, rfl, .entries⟩
  | meanwhile change => exact .inl ⟨_, change store, rfl, .meanwhile change⟩

theorem applyAll_cons {registry next : RouterRegistry} {store later : Store} {use : RegistryUse}
    {answer : RegistryAnswer} (applied : use.apply registry store = (answer, next, later))
    (rest : List RegistryUse) :
    applyAll registry store (use :: rest) =
      (answer :: (applyAll next later rest).1, (applyAll next later rest).2) := by
  rw [applyAll, applied]

/-- Once there are entries, they stay, and all answers come from them. -/
theorem applyAll_with (entries : List RegisteredRouter) (store : Store) (uses : List RegistryUse) :
    ∃ answers, applyAll ⟨some entries⟩ store uses = (answers, ⟨some entries⟩) ∧
      List.Forall₂ (AnsweredWith entries) uses answers := by
  induction uses generalizing store with
  | nil => exact ⟨[], rfl, .nil⟩
  | cons use rest ih =>
    obtain ⟨answer, later, applied, answered⟩ := apply_with entries store use
    obtain ⟨answers, run, others⟩ := ih later
    refine ⟨answer :: answers, ?_, .cons answered others⟩
    rw [applyAll_cons applied, run]

/-- However a registry is used, either every attempt to set it up fails, and nobody finds
anything on it, or the first that succeeds makes its entries, by which everything is answered
from then on. -/
theorem answers_applyAll (uses : List RegistryUse) (store : Store) :
    (∃ answers, applyAll {} store uses = (answers, {}) ∧
      List.Forall₂ AnsweredWithout uses answers) ∨
    ∃ before context settings after answersBefore entries answersAfter,
      uses = before ++ .prepare context settings :: after ∧
        applyAll {} store uses =
          (answersBefore ++ .prepared (.ok ()) :: answersAfter, ⟨some entries⟩) ∧
        List.Forall₂ AnsweredWithout before answersBefore ∧
        RegisteredRouter.AreRegistered context settings entries ∧
        List.Forall₂ (AnsweredWith entries) after answersAfter := by
  induction uses generalizing store with
  | nil => exact .inl ⟨[], rfl, .nil⟩
  | cons use rest ih =>
    rcases apply_without store use with
      ⟨answer, later, applied, answered⟩ | ⟨context, settings, entries, later, rfl, applied, made⟩
    · rw [applyAll_cons applied]
      rcases ih later with ⟨answers, run, others⟩ | ⟨before, context, settings, after, answersBefore,
        entries, answersAfter, rfl, run, earlier, made, afterwards⟩
      · exact .inl ⟨answer :: answers, by rw [run], .cons answered others⟩
      · refine .inr ⟨use :: before, context, settings, after, answer :: answersBefore, entries,
          answersAfter, rfl, ?_, .cons answered earlier, made, afterwards⟩
        rw [run, List.cons_append]
    · obtain ⟨answers, run, others⟩ := applyAll_with entries later rest
      refine .inr ⟨[], context, settings, rest, [], entries, answers, rfl, ?_, .nil, made, others⟩
      rw [applyAll_cons applied, run, List.nil_append]

section

private abbrev guideRouter : Router := (PatternRouter.below "guide" (.parsed {})).toRouter

private abbrev guideContext : RouterContext where
  own := { routers := [("guide", guideRouter)] }

/-- The bundled kinds, and one that nobody makes. -/
private abbrev oddKinds : IntrospectionSettings where
  defaultRouters := some ["path-pattern", "plans"]

private abbrev guideUses : List RegistryUse :=
  [.entries, .prepare .standard oddKinds, .readiness,
    .prepare guideContext { patternCacheLimit := 8 }, .prepare .standard oddKinds, .entries]

/-- The first attempt fails at the second kind and leaves nothing of the first one, the second
attempt makes the entries, and the first one made again changes nothing. -/
theorem answers_applyAll_guide :
    ∃ entries, applyAll {} {} guideUses =
        ([.entries (.error (.illegalState "router registry has not been initialized" none)),
          .prepared (.error (.configuration "no router factory registered for kind 'plans'")),
          .readiness false, .prepared (.ok ()), .prepared (.ok ()), .entries (.ok entries)],
          ⟨some entries⟩) ∧
      entries.map (·.router) = [guideRouter] ∧
      RegisteredRouter.AreRegistered guideContext { patternCacheLimit := 8 } entries := by
  have refused : discover .standard oddKinds =
      .error (.configuration "no router factory registered for kind 'plans'") := rfl
  have found : discover guideContext { patternCacheLimit := 8 } =
      .ok ([guideRouter], .discoveredRouters ["guide"]) := by
    have visible : guideContext.routers.map (·.2) = [guideRouter] := rfl
    simp only [discover, visible, List.mergeSort_singleton]
    rfl
  rcases answers_applyAll guideUses {} with
    ⟨answers, run, _⟩ | ⟨before, context, settings, after, _, entries, _, divided, run, _, made, _⟩
  · simp only [applyAll, apply, RouterRegistry.prepare, refused, found] at run
    cases congrArg Prod.snd run
  · have ran := run
    simp only [applyAll, apply, RouterRegistry.prepare, refused, found] at ran
    obtain rfl := congrArg (fun result => result.2.entries?.getD []) ran
    obtain ⟨notice, discovered⟩ := made.discovered
    have used : RegistryUse.prepare context settings ∈ guideUses := by
      rw [divided]
      simp
    simp only [List.mem_cons, List.not_mem_nil, reduceCtorEq, RegistryUse.prepare.injEq, or_false,
      false_or] at used
    rcases used with ⟨rfl, rfl⟩ | ⟨rfl, rfl⟩ | ⟨rfl, rfl⟩
    · cases refused.symm.trans discovered
    · refine ⟨_, ?_, (Prod.mk.inj (Except.ok.inj (found.symm.trans discovered))).1.symm, made⟩
      simp only [applyAll, apply, RouterRegistry.prepare, refused, found]
      rfl
    · cases refused.symm.trans discovered

end

end RegistryUse

end RouteProbe
