import RouteProbe.Proofs.Lookup.PathErrors

/-! # Errors of policy lookups

A policy lookup can go wrong in three places: there may be no registry yet, a router may want the
path split that cannot be, and the source that decides on the first chain may fail (`PolicyFault`).
What routers return as errors is not among them, since a router that fails is passed over like one
that has no answer. The lookup is therefore the same over routers that never fail
(`Introspector.corsPolicy_silenced`); in a pass that does not ignore failures, the first one
decides.
-/

namespace RouteProbe

/-- Which source decides on the policy of a chain: that of the first interceptor that has one, or
that of the handler if none has. -/
inductive Chain.DecidedBy (chain : Chain) : CorsSource → Prop
  | interceptor {before after : List Interceptor} {capable : Interceptor} {source : CorsSource}
      (divided : chain.interceptors = before ++ capable :: after)
      (incapable : ∀ earlier ∈ before, earlier.cors = none) (found : capable.cors = some source) :
      DecidedBy chain source
  | handler {source : CorsSource}
      (incapable : ∀ interceptor ∈ chain.interceptors, interceptor.cors = none)
      (found : chain.handler.cors = some source) : DecidedBy chain source

theorem Chain.corsSource?_eq_some_iff {chain : Chain} {source : CorsSource} :
    chain.corsSource? = some source ↔ chain.DecidedBy source := by
  rw [corsSource?, Option.or_eq_some_iff, List.findSome?_eq_some_iff, List.findSome?_eq_none_iff]
  constructor
  · rintro (⟨before, capable, after, divided, found, incapable⟩ | ⟨incapable, found⟩)
    · exact .interceptor divided incapable found
    · exact .handler incapable found
  · intro decided
    cases decided with
    | interceptor divided incapable found => exact .inl ⟨_, _, _, divided, found, incapable⟩
    | handler incapable found => exact .inr ⟨incapable, found⟩

theorem Chain.corsPolicy_eq_error_iff {chain : Chain} {probe : Request} {error : RoutingError} :
    chain.corsPolicy probe = .error error ↔
      ∃ source, chain.DecidedBy source ∧ source probe = .error error := by
  simp only [← corsSource?_eq_some_iff, corsPolicy]
  cases chain.corsSource? <;> simp

namespace Pass

variable {α : Type} {entries : List RegisteredRouter} {probe first : Request} {error : RoutingError}

/-- The chain that a pass comes to in which failures are ignored, and the probe as the router that
answers with it leaves it. -/
inductive ComesTo (entries : List RegisteredRouter) (first : Request) : Chain → Request → Prop
  | intro {before after : List RegisteredRouter} {entry : RegisteredRouter} {last : Request}
      {chain : Chain}
      (divided : entries = before ++ entry :: after) (passage : Passage true first before last)
      (answered : entry.answer last = .ok (some chain)) :
      ComesTo entries first chain (entry.leave last)

theorem ask_ignoring_eq_error_iff {read : Chain → Request → Except RoutingError α} :
    (ask true (reading fun _ chain probe => read chain probe) entries first).outcome = .error error ↔
      ∃ chain probe, ComesTo entries first chain probe ∧ read chain probe = .error error := by
  constructor
  · intro failed
    rcases passage_or_decision true entries first with
      ⟨last, passage⟩ | ⟨before, entry, after, last, rfl, passage, decides⟩
    · rw [ask_outcome_of_passage passage] at failed
      cases failed
    · rcases entry.passesOver_or_decides true last with
        undecided | ⟨chain, answered⟩ | ⟨impossible, _⟩
      · exact absurd undecided decides
      · rw [ask_outcome_of_chain passage answered, exceptMap_eq_error_iff] at failed
        exact ⟨chain, entry.leave last, .intro rfl passage answered, failed⟩
      · cases impossible
  · rintro ⟨_, _, ⟨rfl, passage, answered⟩, failed⟩
    rw [ask_outcome_of_chain passage answered, exceptMap_eq_error_iff]
    exact failed

theorem splitFor_eq_error_iff :
    splitFor entries probe = .error error ↔
      (∃ entry ∈ entries, entry.usesParsedPath = true) ∧ probe.splitPath = .error error := by
  rw [← List.any_eq_true]
  cases splits : probe.splitPath with
  | error fault =>
    rw [splitFor_of_rejected entries splits]
    split <;> simp [*]
  | ok path =>
    simp only [reduceCtorEq, and_false, iff_false]
    intro failed
    obtain ⟨first, begins, _⟩ := splitFor_isReady entries splits
    rw [begins] at failed
    cases failed

end Pass

section Silenced

/-- The router that has no answer wherever this one fails, and is otherwise the same. -/
def Router.silenced (router : Router) : Router :=
  { router with
    resolve := fun request =>
      let resolution := router.resolve request
      match resolution.outcome with
      | .ok _ => resolution
      | .error _ => { resolution with outcome := .ok none } }

/-- The entry with its router silenced. -/
def RegisteredRouter.silenced (entry : RegisteredRouter) : RegisteredRouter :=
  { entry with router := entry.router.silenced }

/-- The registry with its routers silenced. -/
def RouterRegistry.silenced (registry : RouterRegistry) : RouterRegistry :=
  ⟨registry.entries?.map fun entries => entries.map RegisteredRouter.silenced⟩

/-- The introspector with its routers silenced. -/
def Introspector.silenced (introspector : Introspector) : Introspector :=
  { introspector with registry := introspector.registry.silenced }

namespace RegisteredRouter

variable {entry : RegisteredRouter} {probe : Request}

/-- Silencing a router changes nothing about the probe. -/
@[simp] theorem leave_silenced (entry : RegisteredRouter) (probe : Request) :
    entry.silenced.leave probe = entry.leave probe := by
  simp only [leave, Resolution.applyTo, silenced, Router.silenced]
  cases (entry.router.resolve probe).outcome <;> rfl

theorem answer_silenced_of_ok {result : Option Chain} (answered : entry.answer probe = .ok result) :
    entry.silenced.answer probe = .ok result := by
  rw [answer] at answered
  simp only [answer, silenced, Router.silenced, answered]

theorem answer_silenced_of_error {error : RoutingError} (failed : entry.answer probe = .error error) :
    entry.silenced.answer probe = .ok none := by
  rw [answer] at failed
  simp only [answer, silenced, Router.silenced, failed]

theorem answer_silenced_of_passesOver (undecided : entry.PassesOver true probe) :
    entry.silenced.answer probe = .ok none := by
  rcases undecided with nothing | ⟨_, error, failed⟩
  · exact answer_silenced_of_ok nothing
  · exact answer_silenced_of_error failed

end RegisteredRouter

namespace Pass

variable {α : Type} {read : Chain → Request → Except RoutingError α}

/-- If failures are ignored, silenced routers are asked to the same end. -/
theorem ask_silenced_outcome (entries : List RegisteredRouter) (probe : Request) :
    (ask true (reading fun _ chain probe => read chain probe)
        (entries.map RegisteredRouter.silenced) probe).outcome =
      (ask true (reading fun _ chain probe => read chain probe) entries probe).outcome := by
  induction entries generalizing probe with
  | nil => rfl
  | cons entry rest ih =>
    rw [List.map_cons]
    rcases entry.passesOver_or_decides true probe with
      undecided | ⟨chain, answered⟩ | ⟨impossible, _⟩
    · have nothing := RegisteredRouter.answer_silenced_of_passesOver undecided
      rw [ask_cons_of_passesOver undecided, ask_cons_of_passesOver (.inl nothing),
        RegisteredRouter.leave_silenced]
      exact ih (entry.leave probe)
    · have same := RegisteredRouter.answer_silenced_of_ok answered
      rw [ask_cons_of_chain answered, ask_cons_of_chain same, RegisteredRouter.leave_silenced]
      rfl
    · cases impossible

/-- The path is split for the same routers. -/
theorem splitFor_silenced (entries : List RegisteredRouter) (probe : Request) :
    splitFor (entries.map RegisteredRouter.silenced) probe = splitFor entries probe := by
  simp only [splitFor, List.any_map]
  rfl

end Pass

end Silenced

namespace Introspector

variable {introspector : Introspector} {store : Store} {request : Request}

/-- What can go wrong with a policy lookup, by the error behind it. -/
inductive PolicyFault (introspector : Introspector) (request : Request) : RoutingError → Prop
  /-- There is no registry. -/
  | unprepared (unlisted : introspector.registry.entries? = none) :
      PolicyFault introspector request
        (.illegalState "router registry has not been initialized" none)
  /-- A router wants the path split, and it cannot be. -/
  | unsplit {entries : List RegisteredRouter} {error : RoutingError}
      (listed : introspector.registry.entries? = some entries)
      (wanted : ∃ entry ∈ entries, entry.usesParsedPath = true)
      (rejected : RequestPath.parse request.path request.contextPath = .error error) :
      PolicyFault introspector request error
  /-- The source that decides on the first chain fails. -/
  | failing {entries : List RegisteredRouter} {first probe : Request} {chain : Chain}
      {source : CorsSource} {error : RoutingError}
      (listed : introspector.registry.entries? = some entries)
      (begins : introspector.firstProbe entries request = .ok first)
      (comes : Pass.ComesTo entries first chain probe) (decides : chain.DecidedBy source)
      (failed : source probe = .error error) : PolicyFault introspector request error

theorem corsPolicy_of_unprepared (unlisted : introspector.registry.entries? = none)
    (fresh : request.rememberedPolicy? = none) :
    (introspector.corsPolicy store request).1 =
      .error (.stateFrom (.illegalState "router registry has not been initialized" none)) := by
  simp only [corsPolicy, fresh, resolve, pass, Pass.run, RouterRegistry.require, unlisted]
  rfl

theorem corsPolicy_eq_error_iff (fresh : request.rememberedPolicy? = none) {failure : RoutingError} :
    (introspector.corsPolicy store request).1 = .error failure ↔
      ∃ cause, introspector.PolicyFault request cause ∧ cause.stateFrom = failure := by
  cases listed : introspector.registry.entries? with
  | none =>
    rw [corsPolicy_of_unprepared listed fresh, Except.error.injEq]
    constructor
    · intro same
      exact ⟨_, .unprepared listed, same⟩
    · rintro ⟨cause, fault, rfl⟩
      cases fault with
      | unprepared => rfl
      | unsplit other => cases listed.symm.trans other
      | failing other => cases listed.symm.trans other
  | some entries =>
    -- The probe differs from the request in its attributes only, and so it has the same path.
    have splits : (request.probe introspector.settings.suppressProbeLogging).splitPath =
        RequestPath.parse request.path request.contextPath := rfl
    rw [corsPolicy_outcome listed fresh, mapError_eq_error_iff]
    refine exists_congr fun cause => and_congr_left' ?_
    rw [exceptMap_eq_error_iff, bind_eq_error_iff]
    constructor
    · rintro (unsplit | ⟨first, begins, failed⟩)
      · obtain ⟨wanted, rejected⟩ := Pass.splitFor_eq_error_iff.mp unsplit
        exact .unsplit listed wanted (splits.symm.trans rejected)
      · obtain ⟨chain, probe, comes, failed⟩ := Pass.ask_ignoring_eq_error_iff.mp failed
        obtain ⟨source, decides, failed⟩ := Chain.corsPolicy_eq_error_iff.mp failed
        exact .failing listed begins comes decides failed
    · intro fault
      cases fault with
      | unprepared unlisted => cases listed.symm.trans unlisted
      | unsplit other wanted rejected =>
        obtain rfl := Option.some.inj (listed.symm.trans other)
        exact .inl (Pass.splitFor_eq_error_iff.mpr ⟨wanted, splits.trans rejected⟩)
      | failing other begins comes decides failed =>
        obtain rfl := Option.some.inj (listed.symm.trans other)
        have read := Chain.corsPolicy_eq_error_iff.mpr ⟨_, decides, failed⟩
        exact .inr ⟨_, begins, Pass.ask_ignoring_eq_error_iff.mpr ⟨_, _, comes, read⟩⟩

/-- A policy lookup comes to the same over routers that do not fail. -/
theorem corsPolicy_silenced (fresh : request.rememberedPolicy? = none) :
    (introspector.silenced.corsPolicy store request).1 = (introspector.corsPolicy store request).1 := by
  cases listed : introspector.registry.entries? with
  | none =>
    have unlisted : introspector.silenced.registry.entries? = none := by
      rw [silenced, RouterRegistry.silenced, listed, Option.map_none]
    rw [corsPolicy_of_unprepared listed fresh, corsPolicy_of_unprepared unlisted fresh]
  | some entries =>
    have others : introspector.silenced.registry.entries? =
        some (entries.map RegisteredRouter.silenced) := by
      rw [silenced, RouterRegistry.silenced, listed, Option.map_some]
    have begins : introspector.silenced.firstProbe (entries.map RegisteredRouter.silenced) request =
        introspector.firstProbe entries request := Pass.splitFor_silenced _ _
    simp only [corsPolicy_outcome listed fresh, corsPolicy_outcome others fresh, begins,
      Pass.ask_silenced_outcome]

/-- The first failure that a pass meets, with nothing but empty answers before it. -/
inductive MeetsFailure (introspector : Introspector) (request : Request) : RoutingError → Prop
  | intro {entries before after : List RegisteredRouter} {entry : RegisteredRouter}
      {first last : Request} {error : RoutingError}
      (listed : introspector.registry.entries? = some entries)
      (begins : introspector.firstProbe entries request = .ok first)
      (divided : entries = before ++ entry :: after) (passage : Passage false first before last)
      (failed : entry.answer last = .error error) : MeetsFailure introspector request error

theorem resolve_of_meetsFailure {error : RoutingError}
    (meets : introspector.MeetsFailure request error) {α : Type} (extract : Pass.Extractor α) :
    (introspector.resolve store false extract request).1 = .error error := by
  cases meets with
  | intro listed begins divided passage failed =>
    rw [firstProbe] at begins
    rw [resolve, pass, Pass.run_outcome listed, begins, ok_bind, divided]
    exact Pass.ask_outcome_of_error passage failed

/-- A policy lookup on a request without a remembered outcome fails exactly if there is no registry,
or a router wants the path split and it cannot be, or the source that decides on the first chain
fails; the error is an illegal state with that fault behind it, described as the fault is. Whether
and how routers fail makes no difference. To a pattern query without a remembered answer, and to
every pass in which failures are not ignored, the first failure is the answer. -/
theorem corsPolicy_errors (introspector : Introspector) (store : Store) {request : Request}
    (fresh : request.rememberedPolicy? = none) :
    (∀ failure, (introspector.corsPolicy store request).1 = .error failure ↔
      ∃ cause, introspector.PolicyFault request cause ∧
        failure = .illegalState cause.message (some cause)) ∧
    (introspector.silenced.corsPolicy store request).1 =
      (introspector.corsPolicy store request).1 ∧
    ∀ error, introspector.MeetsFailure request error →
      (store.remembered? request = none →
        (introspector.boundRouter store request).1 = .error error) ∧
      ∀ (α : Type) (extract : Pass.Extractor α),
        (introspector.resolve store false extract request).1 = .error error := by
  refine ⟨fun failure => ?_, corsPolicy_silenced fresh, fun error meets => ⟨fun unbound => ?_, ?_⟩⟩
  · rw [corsPolicy_eq_error_iff fresh]
    exact exists_congr fun cause => and_congr_right' eq_comm
  · rw [boundRouter, unbound]
    exact resolve_of_meetsFailure meets _
  · intro α extract
    exact resolve_of_meetsFailure meets extract

section

private abbrev downRouter : Router where
  name := "down"
  order := 0
  resolve := fun request =>
    ⟨.error (.resolution "down" "backend unavailable" none), request.attributes, []⟩

private abbrev expired : RoutingError := .configuration "policy expired"

/-- A chain whose second interceptor is its first source of policies, and fails. -/
private abbrev expiredChain : Chain where
  handler := .operation "files" (some {})
  interceptors := [⟨"log", none⟩, ⟨"gate", some fun _ => .error expired⟩]

private abbrev fileEntries : List RegisteredRouter :=
  [⟨downRouter, none⟩, ⟨.always "files" 1 expiredChain, none⟩]

private abbrev fileIntrospector : Introspector := ⟨{}, {}, ⟨some fileEntries⟩⟩

private abbrev fileRequest : Request := { uri := ⟨none, none, "/files/a", none⟩ }

/-- The policy lookup passes the first router over and reports the source of the second one's chain;
the pattern query reports the first router. -/
theorem corsPolicy_errors_files :
    let failure := RoutingError.illegalState "configuration error: policy expired" (some expired)
    (fileIntrospector.corsPolicy {} fileRequest).1 = .error failure ∧
      (fileIntrospector.silenced.corsPolicy {} fileRequest).1 = .error failure ∧
      (fileIntrospector.boundRouter {} fileRequest).1 =
        .error (.resolution "down" "backend unavailable" none) := by
  have fresh : fileRequest.rememberedPolicy? = none := by rfl
  obtain ⟨fails, silenced, counted⟩ := corsPolicy_errors fileIntrospector {} fresh
  -- Neither router changes the probe.
  let probe := fileRequest.probe true
  have begins : fileIntrospector.firstProbe fileEntries fileRequest = .ok probe := by rfl
  have passage : Passage true probe [⟨downRouter, none⟩] probe :=
    .cons (.inr ⟨rfl, _, rfl⟩) (.nil _)
  have comes : Pass.ComesTo fileEntries probe expiredChain probe := .intro rfl passage rfl
  have divided : expiredChain.interceptors =
      [⟨"log", none⟩] ++ ⟨"gate", some fun _ => .error expired⟩ :: [] := by rfl
  have decides : expiredChain.DecidedBy fun _ => .error expired :=
    .interceptor divided (by simp) rfl
  have failed := (fails _).mpr ⟨expired, .failing rfl begins comes decides rfl, rfl⟩
  have meets : fileIntrospector.MeetsFailure fileRequest
      (.resolution "down" "backend unavailable" none) :=
    .intro rfl begins (List.nil_append _).symm (.nil _) rfl
  exact ⟨failed, silenced.trans failed, (counted _ meets).1 rfl⟩

end

end Introspector

end RouteProbe
