import RouteProbe.Proofs.Lookup.ScopedAnswers
import RouteProbe.Proofs.Pipeline.AnswerStages

/-! # Lookups that are spared

In front of the stage for policies, an answer stage spares the lookup. The stage behind it finds the
outcome on the request if a router takes the request, and asks again if none does, while without an
answer stage it asks in any case, and ignores errors that would stop an answer stage. What the
client gets is the same nevertheless. Two runs are compared for this whose visits agree apart from
the two answers: the stage for policies does not let the difference through as long as its lookups
agree, and the lookups of one introspector do.
-/

namespace RouteProbe

variable {σ : Type}

/-- Visits agree apart from the two answers. The first one may have more bound routers than the
second, since answers refer to some, and anything may have been noted about either of them. -/
structure Visit.AgreesApart (first second : Visit σ) : Prop where
  others : ∀ name, name ≠ AttributeName.boundRouter → name ≠ AttributeName.corsOutcome →
    first.request.attribute? name = second.request.attribute? name
  message : { first.request with attributes := second.request.attributes } = second.request
  tables : first.store.tables = second.store.tables
  kept : second.store.KeptIn first.store
  host : first.host = second.host

/-- The rest of a run makes the same outcome of visits that agree apart from the two answers. -/
def Next.IgnoresAnswers (next : Next σ) : Prop :=
  ∀ first second : Visit σ, first.AgreesApart second → (next first).1 = (next second).1

/-- A lookup that does nothing but note what happens. -/
def PolicyLookup.OnlyNotes (lookup : PolicyLookup) : Prop :=
  ∀ (store : Store) (request : Request), ∃ entries, (lookup store request).2 = store.record entries

namespace Visit.AgreesApart

variable {first second : Visit σ}

/-- Visits still agree when more has been noted about them. -/
theorem record (agrees : first.AgreesApart second) (noted other : Journal) :
    AgreesApart { first with store := first.store.record noted }
      { second with store := second.store.record other } :=
  ⟨agrees.others, agrees.message, agrees.tables, agrees.kept, agrees.host⟩

theorem headers (agrees : first.AgreesApart second) :
    first.request.headers = second.request.headers := by
  rw [← agrees.message]

theorem isPreflight (agrees : first.AgreesApart second) :
    first.request.isPreflight = second.request.isPreflight := by
  rw [← agrees.message]
  rfl

end Visit.AgreesApart

/-- The stage for policies comes to one outcome about visits that agree apart from the two answers,
if its lookup does and the rest of the run ignores the answers. -/
theorem corsStage_outcome_eq {lookup : PolicyLookup} {first second : Visit σ} {next : Next σ}
    (notes : lookup.OnlyNotes) (ignores : Next.IgnoresAnswers next)
    (agrees : first.AgreesApart second)
    (same : (lookup first.store first.request).1 = (lookup second.store second.request).1) :
    ((corsStage lookup).process next first).1 = ((corsStage lookup).process next second).1 := by
  have further : (next { first with store := (lookup first.store first.request).2 }).1 =
      (next { second with store := (lookup second.store second.request).2 }).1 := by
    obtain ⟨noted, firstStore⟩ := notes first.store first.request
    obtain ⟨other, secondStore⟩ := notes second.store second.request
    rw [firstStore, secondStore]
    exact ignores _ _ (agrees.record noted other)
  cases come : second.request.headers.text? HeaderName.origin with
  | none =>
    simp only [corsStage, agrees.headers, come]
    exact ignores _ _ agrees
  | some origin =>
    simp only [corsStage, agrees.headers, come, same]
    cases (lookup second.store second.request).1 with
    | error error => rfl
    | ok found =>
      cases found with
      | none => exact further
      | some policy =>
        simp only [agrees.isPreflight]
        cases second.request.isPreflight with
        | true => rfl
        | false => exact congrArg (Outcome.map (policy.decorate origin)) further

namespace Introspector

variable {introspector : Introspector} {visit : Visit σ}
  {answers : Option (BoundRouter × Option CorsPolicy)}

theorem corsPolicy_onlyNotes (introspector : Introspector) :
    PolicyLookup.OnlyNotes introspector.corsPolicy := by
  intro store request
  unfold corsPolicy
  split
  · exact ⟨[], by simp [Store.record]⟩
  · exact ⟨_, rfl⟩

/-- What is found about a policy does not depend on the store. -/
theorem corsPolicy_fst (introspector : Introspector) (store other : Store) (request : Request) :
    (introspector.corsPolicy store request).1 = (introspector.corsPolicy other request).1 := by
  unfold corsPolicy
  split <;> rfl

/-- The inside of a scope, whatever is noted about it, agrees with the outside apart from the two
answers. -/
theorem agreesApart_inside (introspector : Introspector) (visit : Visit σ)
    (answers : Option (BoundRouter × Option CorsPolicy)) (notice : Notice) :
    ((introspector.inside visit answers).notify notice).AgreesApart visit := by
  have opens := introspector.opens_inside visit answers
  cases answers with
  | none => exact ⟨fun _ _ _ => rfl, rfl, rfl, opens.kept, rfl⟩
  | some answer =>
    have carries : visit.Carries (introspector.inside visit (some answer)) answer.1 answer.2 :=
      opens
    exact ⟨carries.others, carries.message, rfl, carries.kept, carries.host⟩

/-- The policy that is found inside a scope is the one that is found outside: the remembered one is
what the pass that ignores errors comes to, and where there is none the request is the same. -/
theorem corsPolicy_inside (found : (introspector.findAnswers visit.request).outcome = .ok answers)
    (unknown : visit.request.rememberedPolicy? = none) (store other : Store) :
    (introspector.corsPolicy store (introspector.inside visit answers).request).1 =
      (introspector.corsPolicy other visit.request).1 := by
  cases answers with
  | none => exact introspector.corsPolicy_fst store other visit.request
  | some answer =>
    obtain ⟨bound, policy⟩ := answer
    have known : (introspector.inside visit (some (bound, policy))).request.rememberedPolicy? =
        some policy := Store.rememberedPolicy?_remember _ visit.request bound policy
    rw [introspector.corsPolicy_of_remembered known, corsPolicy_of_findAnswers other unknown found]

/-- If introspection succeeds, the outcome is that of the rest of the run with the answers on the
request. -/
theorem stage_process_fst (found : (introspector.findAnswers visit.request).outcome = .ok answers)
    (next : Next σ) :
    (introspector.stage.process next visit).1 =
      let inside := introspector.inside visit answers
      (next (inside.notify (.cachePopulated inside.request.path
        (inside.store.remembered? inside.request).isSome))).1 := by
  simp only [stage, withAnswers_of_ok found]

end Introspector

/-- An answer stage in front of the stage for policies only spares lookups. If introspection
succeeds, be it that a router takes the request or that none does, and no policy outcome has been
left on the request before, then a handler that ignores the answers leads to the same outcome with
the answer stage and without it, whatever kind of request it is. If introspection fails, the
response reports that, and nothing behind the answer stage runs. -/
theorem Introspector.run_stage_corsStage (introspector : Introspector) (visit : Visit σ) :
    (∀ answers (handler : Next σ), (introspector.findAnswers visit.request).outcome = .ok answers →
      visit.request.rememberedPolicy? = none → handler.IgnoresAnswers →
        (Pipeline.run [introspector.stage, corsStage introspector.corsPolicy] handler visit).1 =
          (Pipeline.run [corsStage introspector.corsPolicy] handler visit).1) ∧
    ∀ error (rest : Pipeline σ) (handler : Next σ),
      (introspector.findAnswers visit.request).outcome = .error error →
        Pipeline.run (introspector.stage :: rest) handler visit =
          (.done (.ofError (.introspection error)),
            { visit with store := introspector.storeOfFailure visit error }) := by
  constructor
  · intro answers handler found unknown ignores
    have agrees := introspector.agreesApart_inside visit answers
    have same := corsPolicy_inside found unknown
    calc (introspector.stage.process
          ((corsStage introspector.corsPolicy).process handler) visit).1
        = ((corsStage introspector.corsPolicy).process handler
            ((introspector.inside visit answers).notify _)).1 := stage_process_fst found _
      _ = ((corsStage introspector.corsPolicy).process handler visit).1 :=
          corsStage_outcome_eq introspector.corsPolicy_onlyNotes ignores (agrees _) (same _ _)
  · intro error rest handler fails
    exact stage_process_of_error fails (Pipeline.run rest handler)

section

private abbrev galleryPolicy : CorsPolicy := .build [.origin "https://gallery.example.com"]

private abbrev galleryRouter : PatternRouter :=
  { PatternRouter.below "gallery" .resolved with interceptors := [.ofPolicy galleryPolicy] }

private abbrev galleryIntrospector : Introspector where
  context := {}
  registry := ⟨some [⟨galleryRouter.toRouter, none⟩]⟩

private abbrev unboundIntrospector : Introspector where
  context := {}
  registry := ⟨some [⟨{ galleryRouter.toRouter with matcher := none }, none⟩]⟩

private abbrev galleryVisit (path : String) : Visit Unit where
  request := {
    uri := ⟨none, none, path, none⟩
    headers := ⟨[(HeaderName.origin, ⟨Text.octets "https://gallery.example.com", by decide⟩)]⟩ }
  host := ()

private abbrev echo : Next Unit := fun visit => (.done (.ofText 200 visit.request.path), visit)

private theorem ignoresAnswers_echo : Next.IgnoresAnswers echo := by
  intro first second agrees
  have same : first.request.path = second.request.path := by
    rw [← agrees.message]
    rfl
  rw [echo, same]

/-- The router takes one request and not the other. Both are answered as they are without an answer
stage, the former with the headers of the policy. If the router cannot be bound, the stage for
policies alone does not mind, but an answer stage in front of it does. -/
theorem Introspector.run_stage_corsStage_gallery :
    let cors := corsStage galleryIntrospector.corsPolicy
    let unboundCors := corsStage unboundIntrospector.corsPolicy
    let pipeline := [galleryIntrospector.stage, cors]
    let taken := galleryVisit "/gallery/a"
    let other := galleryVisit "/elsewhere"
    Next.IgnoresAnswers echo ∧
      (Pipeline.run pipeline echo taken).1 = (Pipeline.run [cors] echo taken).1 ∧
      (∃ response, (Pipeline.run pipeline echo taken).1 = .done response ∧
        response.header? HeaderName.allowOrigin = some "https://gallery.example.com") ∧
      (Pipeline.run pipeline echo other).1 = (Pipeline.run [cors] echo other).1 ∧
      (Pipeline.run [unboundCors] echo taken).1 = (Pipeline.run [cors] echo taken).1 ∧
      (Pipeline.run [unboundIntrospector.stage, unboundCors] echo taken).1 =
        .done (.ofError (.introspection (.notMatchable "gallery"))) := by
  have found : (galleryIntrospector.findAnswers (galleryVisit "/gallery/a").request).outcome =
      .ok (some (.resolved galleryRouter.toRouter ⟨none, galleryRouter.matchPattern⟩ "/gallery/a",
        some galleryPolicy)) := by rfl
  have spared := (galleryIntrospector.run_stage_corsStage (galleryVisit "/gallery/a")).1 _ echo
    found rfl ignoresAnswers_echo
  have repeated := (galleryIntrospector.run_stage_corsStage (galleryVisit "/elsewhere")).1 none
    echo rfl rfl ignoresAnswers_echo
  have stopped := (unboundIntrospector.run_stage_corsStage (galleryVisit "/gallery/a")).2
    (.notMatchable "gallery") [corsStage unboundIntrospector.corsPolicy] echo rfl
  exact ⟨ignoresAnswers_echo, spared, ⟨_, rfl, by decide⟩, repeated, by rfl,
    congrArg Prod.fst stopped⟩

end

end RouteProbe
