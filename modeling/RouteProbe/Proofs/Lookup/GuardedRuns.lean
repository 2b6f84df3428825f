import RouteProbe.Proofs.Lookup.LookupPathOrigin
import RouteProbe.Proofs.Request.RestoredAttributes

/-! # Runs with answers on the request

Introspection runs something with its answers on the request, and puts back afterwards what was
there before. What is run may do anything to the request, and may run other things in the same way.
The values that are put back refer to bound routers by their numbers, so they are the same values
only if the store still has the same bound routers under these numbers: programs that run inside
never take one away, however deeply they are nested. Main statement: what the inside and the outside
of such a run have in common, and in what they differ.
-/

namespace RouteProbe

theorem Store.remembered?_eq_some_iff {store : Store} {request : Request} {bound : BoundRouter} :
    store.remembered? request = some bound ↔
      ∃ number, request.attribute? AttributeName.boundRouter = some (.boundRouter number) ∧
        store.bound[number]? = some bound := by
  unfold remembered?
  constructor
  · intro remembered
    obtain ⟨value, held, numbered⟩ := Option.bind_eq_some_iff.mp remembered
    obtain ⟨number, read, found⟩ := Option.bind_eq_some_iff.mp numbered
    cases value <;> cases read
    exact ⟨number, held, found⟩
  · rintro ⟨number, held, found⟩
    simpa [held, AttributeValue.boundRouter?] using found

/-- The store still has every bound router that it had, under the same number. -/
def Store.KeptIn (earlier later : Store) : Prop := earlier.bound <+: later.bound

namespace Store.KeptIn

variable {first second third : Store}

theorem refl (store : Store) : store.KeptIn store := List.prefix_rfl

theorem of_eq (same : second.bound = first.bound) : first.KeptIn second := by
  have appended : first.bound ++ [] = second.bound := by rw [List.append_nil, same]
  exact ⟨[], appended⟩

theorem trans (earlier : first.KeptIn second) (later : second.KeptIn third) : first.KeptIn third :=
  List.IsPrefix.trans earlier later

theorem remembered?_eq {before after : Request} {bound : BoundRouter} (kept : first.KeptIn second)
    (same : after.attribute? AttributeName.boundRouter =
      before.attribute? AttributeName.boundRouter)
    (remembered : first.remembered? before = some bound) :
    second.remembered? after = some bound := by
  obtain ⟨number, held, found⟩ := remembered?_eq_some_iff.mp remembered
  obtain ⟨known, _⟩ := List.getElem?_eq_some_iff.mp found
  obtain ⟨added, appended⟩ := kept
  refine remembered?_eq_some_iff.mpr ⟨number, same.trans held, ?_⟩
  rw [← appended, List.getElem?_append_left known, found]

end Store.KeptIn

namespace CacheSnapshot

theorem boundRouter_ne_corsOutcome : AttributeName.boundRouter ≠ AttributeName.corsOutcome := by
  decide

/-- Putting both answers back leaves just what was held before under their names. -/
@[simp] theorem take_restore (snapshot : CacheSnapshot) (request : Request) :
    take (snapshot.restore request) = snapshot := by
  simp [take, restore, Request.attribute?_restoreAttribute_of_ne _ boundRouter_ne_corsOutcome]

theorem attribute?_restore (snapshot : CacheSnapshot) (request : Request) {name : String}
    (router : name ≠ AttributeName.boundRouter) (policy : name ≠ AttributeName.corsOutcome) :
    (snapshot.restore request).attribute? name = request.attribute? name := by
  rw [restore, Request.attribute?_restoreAttribute_of_ne _ policy,
    Request.attribute?_restoreAttribute_of_ne _ router]

theorem take_eq_take_iff {first second : Request} :
    take first = take second ↔
      first.attribute? AttributeName.boundRouter = second.attribute? AttributeName.boundRouter ∧
        first.attribute? AttributeName.corsOutcome =
          second.attribute? AttributeName.corsOutcome := by
  simp [take]

end CacheSnapshot

namespace Visit

variable {σ : Type}

/-- Whatever is run, the store has the bound routers afterwards that it had before. -/
def KeepsBound {α : Type} (run : Visit σ → α × Visit σ) : Prop :=
  ∀ visit : Visit σ, visit.store.KeptIn (run visit).2.store

/-- The inside of a scope differs from the outside in the two answers, and the store has them in
addition to what it had. -/
structure Carries (outside inside : Visit σ) (bound : BoundRouter) (policy : Option CorsPolicy) :
    Prop where
  router : inside.store.remembered? inside.request = some bound
  policy : inside.request.attribute? AttributeName.corsOutcome = some (.corsOutcome policy)
  others : ∀ name, name ≠ AttributeName.boundRouter → name ≠ AttributeName.corsOutcome →
    inside.request.attribute? name = outside.request.attribute? name
  message : { inside.request with attributes := outside.request.attributes } = outside.request
  kept : outside.store.KeptIn inside.store
  host : inside.host = outside.host

/-- What the inside of a scope is, seen from outside: with the answers, if a router was found, and
otherwise without any change. -/
def Opens (outside : Visit σ) (answers : Option (BoundRouter × Option CorsPolicy))
    (inside : Visit σ) : Prop :=
  match answers with
  | some (bound, policy) => outside.Carries inside bound policy
  | none => inside.request = outside.request ∧ inside.store.bound = outside.store.bound ∧
      inside.host = outside.host

/-- What is left of a scope: what was left inside, except that both answers are those of the outside
again. -/
structure Closes (outside left after : Visit σ) : Prop where
  answers : CacheSnapshot.take after.request = CacheSnapshot.take outside.request
  others : ∀ name, name ≠ AttributeName.boundRouter → name ≠ AttributeName.corsOutcome →
    after.request.attribute? name = left.request.attribute? name
  message : { after.request with attributes := left.request.attributes } = left.request
  store : after.store = left.store
  host : after.host = left.host

theorem Opens.kept {outside inside : Visit σ} {answers : Option (BoundRouter × Option CorsPolicy)}
    (opens : outside.Opens answers inside) : outside.store.KeptIn inside.store := by
  cases answers with
  | none => exact .of_eq opens.2.1
  | some => exact Carries.kept opens

theorem closes_restore (outside left : Visit σ) :
    outside.Closes left (left.mapRequest (CacheSnapshot.take outside.request).restore) where
  answers := CacheSnapshot.take_restore _ _
  others _ router policy := CacheSnapshot.attribute?_restore _ _ router policy
  message := rfl
  store := rfl
  host := rfl

end Visit

namespace Introspector

variable {σ α : Type} {introspector : Introspector} {visit : Visit σ}

/-- The inside of a scope. -/
def inside (introspector : Introspector) (visit : Visit σ)
    (answers : Option (BoundRouter × Option CorsPolicy)) : Visit σ :=
  let recorded := visit.store.record (introspector.findAnswers visit.request).journal
  match answers with
  | none => { visit with store := recorded }
  | some (bound, policy) =>
    let (request, store) := recorded.remember visit.request bound policy
    { visit with request, store }

/-- The store after introspection has failed. -/
def storeOfFailure (introspector : Introspector) (visit : Visit σ) (error : RoutingError) : Store :=
  (visit.store.record (introspector.findAnswers visit.request).journal).notify
    (.introspectionFailed visit.request.method.text visit.request.path error.message)

theorem withAnswers_of_error {error : RoutingError}
    (fails : (introspector.findAnswers visit.request).outcome = .error error)
    (body : Visit σ → α × Visit σ) :
    introspector.withAnswers visit body =
      (.error (.introspection error),
        { visit with store := introspector.storeOfFailure visit error }) := by
  simp only [withAnswers, fill, fails]
  rfl

theorem withAnswers_of_ok {answers : Option (BoundRouter × Option CorsPolicy)}
    (found : (introspector.findAnswers visit.request).outcome = .ok answers)
    (body : Visit σ → α × Visit σ) :
    introspector.withAnswers visit body =
      let result := body (introspector.inside visit answers)
      (.ok result.1, result.2.mapRequest (CacheSnapshot.take visit.request).restore) := by
  cases answers with
  | none => simp only [withAnswers, fill, found, inside]
  | some answer => simp only [withAnswers, fill, found, inside]

theorem opens_inside (introspector : Introspector) (visit : Visit σ)
    (answers : Option (BoundRouter × Option CorsPolicy)) :
    visit.Opens answers (introspector.inside visit answers) := by
  cases answers with
  | none => exact ⟨rfl, rfl, rfl⟩
  | some answer =>
    obtain ⟨bound, policy⟩ := answer
    exact {
      router := Store.remembered?_remember _ _ _ _
      policy := Request.attribute?_setAttribute_self _ _ _
      others := fun name router policy => by
        simp only [inside, Store.remember, Request.attribute?_setAttribute_of_ne _ policy,
          Request.attribute?_setAttribute_of_ne _ router]
      message := rfl
      kept := List.prefix_append _ _
      host := rfl }

/-- What keeps the bound routers keeps them with answers on the request as well. -/
theorem withAnswers_keeps (introspector : Introspector) {body : Visit σ → α × Visit σ}
    (keeps : Visit.KeepsBound body) : Visit.KeepsBound (introspector.withAnswers · body) := by
  intro visit
  cases found : (introspector.findAnswers visit.request).outcome with
  | error error =>
    simp only [withAnswers_of_error found]
    exact Store.KeptIn.refl visit.store
  | ok answers =>
    simp only [withAnswers_of_ok found]
    exact (opens_inside introspector visit answers).kept.trans (keeps _)

end Introspector

/-- Something that can be done to a visit in one step. -/
inductive VisitChange (σ : Type)
  | set (name : String) (value : AttributeValue)
  | remove (name : String)
  | remember (bound : BoundRouter) (policy : Option CorsPolicy)
  | forget
  /-- What happens is noted in the journal. -/
  | record (entries : Journal)
  /-- A pattern table is put in the place of another one. -/
  | setTable (number : Nat) (table : PatternTable)
  /-- The surroundings take notice. -/
  | host (change : σ → σ)

/-- The visit after a change. -/
def VisitChange.apply {σ : Type} : VisitChange σ → Visit σ → Visit σ
  | set name value, visit => visit.mapRequest (·.setAttribute name value)
  | remove name, visit => visit.mapRequest (·.removeAttribute name)
  | remember bound policy, visit =>
    let (request, store) := visit.store.remember visit.request bound policy
    { visit with request, store }
  | forget, visit => visit.mapRequest Request.forgetAnswers
  | record entries, visit => { visit with store := visit.store.record entries }
  | setTable number table, visit => { visit with store := visit.store.setTable number table }
  | host change, visit => { visit with host := change visit.host }

/-- A program that is run with answers on the request: it looks around, does one thing after
another, and may run other programs with the answers of other introspectors. -/
inductive Downstream (σ : Type) : Type → Type 1
  | finish {α : Type} (result : α) : Downstream σ α
  | look {α : Type} (next : Visit σ → Downstream σ α) : Downstream σ α
  | act {α : Type} (change : VisitChange σ) (next : Downstream σ α) : Downstream σ α
  | guarded {α β : Type} (introspector : Introspector) (inner : Downstream σ β)
      (next : Except RoutingError β → Downstream σ α) : Downstream σ α

def Downstream.run {σ α : Type} : Downstream σ α → Visit σ → α × Visit σ
  | finish result, visit => (result, visit)
  | look next, visit => (next visit).run visit
  | act change next, visit => next.run (change.apply visit)
  | guarded introspector inner next, visit =>
    let (result, visit) := introspector.withAnswers visit inner.run
    (next result).run visit

theorem VisitChange.keeps {σ : Type} (change : VisitChange σ) (visit : Visit σ) :
    visit.store.KeptIn (change.apply visit).store := by
  cases change with
  | remember => exact List.prefix_append _ _
  | set | remove | forget | record | setTable | host => exact Store.KeptIn.of_eq rfl

/-- A program takes no bound router away, however deeply it nests others. -/
theorem Downstream.run_keeps {σ α : Type} (program : Downstream σ α) :
    Visit.KeepsBound program.run := by
  induction program with
  | finish => exact fun visit => Store.KeptIn.refl visit.store
  | look next ih => exact fun visit => ih visit visit
  | act change next ih => exact fun visit => (change.keeps visit).trans (ih (change.apply visit))
  | guarded introspector inner next ihInner ihNext =>
    exact fun visit => (introspector.withAnswers_keeps ihInner visit).trans (ihNext _ _)

/-- One run with answers on the request: the visit when it was entered, and when it was left. -/
structure ScopeRun (σ : Type) where
  entered : Visit σ
  left : Visit σ

/-- Both attributes hold the same values as before, and these have the same meaning. -/
structure ScopeRun.Exact {σ : Type} (scope : ScopeRun σ) : Prop where
  answers : CacheSnapshot.take scope.left.request = CacheSnapshot.take scope.entered.request
  kept : scope.entered.store.KeptIn scope.left.store

/-- All runs with answers that a program comes to, at whatever depth. -/
def Downstream.scopes {σ α : Type} : Downstream σ α → Visit σ → List (ScopeRun σ)
  | finish _, _ => []
  | look next, visit => (next visit).scopes visit
  | act change next, visit => next.scopes (change.apply visit)
  | guarded introspector inner next, visit =>
    let (result, left) := introspector.withAnswers visit inner.run
    let within := match (introspector.findAnswers visit.request).outcome with
      | .error _ => []
      | .ok answers => inner.scopes (introspector.inside visit answers)
    ⟨visit, left⟩ :: within ++ (next result).scopes left

/-- However the program that is run inside ends, both attributes are as they were. -/
theorem Introspector.take_withAnswers {σ α : Type} (introspector : Introspector) (visit : Visit σ)
    (body : Visit σ → α × Visit σ) :
    CacheSnapshot.take (introspector.withAnswers visit body).2.request =
      CacheSnapshot.take visit.request := by
  cases found : (introspector.findAnswers visit.request).outcome with
  | error error => rw [withAnswers_of_error found]
  | ok answers =>
    rw [withAnswers_of_ok found]
    exact CacheSnapshot.take_restore _ _

theorem Downstream.exact_of_mem_scopes {σ α : Type} (program : Downstream σ α) (visit : Visit σ) :
    ∀ scope ∈ program.scopes visit, scope.Exact := by
  induction program generalizing visit with
  | finish => exact fun _ impossible => absurd impossible List.not_mem_nil
  | look next ih => exact ih visit visit
  | act change next ih => exact ih (change.apply visit)
  | guarded introspector inner next ihInner ihNext =>
    intro scope member
    simp only [scopes, List.cons_append, List.mem_cons, List.mem_append] at member
    rcases member with rfl | within | later
    · exact ⟨introspector.take_withAnswers visit inner.run,
        introspector.withAnswers_keeps inner.run_keeps visit⟩
    · cases found : (introspector.findAnswers visit.request).outcome with
      | error error => simp [found] at within
      | ok answers =>
        rw [found] at within
        exact ihInner _ scope within
    · exact ihNext _ _ scope later

/-- If introspection fails, nothing is run, and only the store tells of it. Otherwise something is
run with the answers on the request, or without any change if no router takes it; whatever it does,
afterwards the two attributes hold what they held before, and everything else is as it was left. If
a program is run that comes to further runs of this kind, nested to any depth, then each of them
puts back what it has found, and no bound router is lost meanwhile, so that what is put back still
means what it meant. -/
theorem Introspector.withAnswers_opens_and_closes {σ : Type} (introspector : Introspector)
    (visit : Visit σ) :
    (match (introspector.findAnswers visit.request).outcome with
      | .error error => ∀ {α : Type} (body : Visit σ → α × Visit σ),
          introspector.withAnswers visit body =
            (.error (.introspection error),
              { visit with store := introspector.storeOfFailure visit error })
      | .ok answers => ∃ inside, visit.Opens answers inside ∧
          ∀ {α : Type} (body : Visit σ → α × Visit σ),
            (introspector.withAnswers visit body).1 = .ok (body inside).1 ∧
              visit.Closes (body inside).2 (introspector.withAnswers visit body).2) ∧
    ∀ {α : Type} (program : Downstream σ α),
      ∀ scope ∈ (Downstream.guarded introspector program .finish).scopes visit, scope.Exact := by
  constructor
  · split
    next error fails => exact withAnswers_of_error fails
    next answers found =>
      refine ⟨introspector.inside visit answers, opens_inside introspector visit answers, ?_⟩
      intro α body
      rw [withAnswers_of_ok found]
      exact ⟨rfl, Visit.closes_restore visit _⟩
  · intro α program
    exact Downstream.exact_of_mem_scopes _ visit

section

private abbrev wireIntrospector : Introspector where
  context := {}
  registry := ⟨some [⟨(PatternRouter.below "wire" .resolved).toRouter, none⟩]⟩

/-- A program that takes the answers away, runs another program with answers that writes over them,
and puts something in their place itself. -/
private abbrev wireProgram : Downstream Unit Unit :=
  .act .forget <|
    .guarded wireIntrospector
      (.act (.set AttributeName.boundRouter (.flag true)) (.finish ()))
      fun _ => .act (.set AttributeName.corsOutcome (.foreign 2)) (.finish ())

/-- A visit with a value of another kind where bound routers are left. -/
private abbrev wireVisit : Visit Unit where
  request := Request.setAttribute { uri := ⟨none, none, "/wire/a", none⟩ }
    AttributeName.boundRouter (.foreign 1)
  host := ()

/-- The outer run finds a value of another kind and no policy, the inner one finds neither, and that
is what each of them puts back. -/
theorem Introspector.withAnswers_opens_and_closes_wire :
    ∃ outer inner,
      (Downstream.guarded wireIntrospector wireProgram .finish).scopes wireVisit = [outer, inner] ∧
        CacheSnapshot.take outer.entered.request = ⟨some (.foreign 1), none⟩ ∧ outer.Exact ∧
        CacheSnapshot.take inner.entered.request = ⟨none, none⟩ ∧ inner.Exact := by
  have exact_of_mem := (wireIntrospector.withAnswers_opens_and_closes wireVisit).2 wireProgram
  have listed : (Downstream.guarded wireIntrospector wireProgram .finish).scopes wireVisit =
      [⟨wireVisit, _⟩, ⟨_, _⟩] := rfl
  rw [listed] at exact_of_mem
  have both := List.forall_mem_cons.mp exact_of_mem
  refine ⟨_, _, listed, by rfl, both.1, by rfl, both.2 _ List.mem_cons_self⟩

end

end RouteProbe
