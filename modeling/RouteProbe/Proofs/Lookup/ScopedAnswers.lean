import RouteProbe.Proofs.Lookup.GuardedRuns
import RouteProbe.Proofs.Lookup.PassTraces

/-! # Answers inside a scope

The answers that introspection leaves on a request come from one pass in which no error is ignored.
Asked afresh, each of the two questions is answered by a pass of its own, and the one about policies
ignores errors of routers. The answers are the same nevertheless: a pass that has found something
has come upon no error, so it goes the same way if errors are ignored, and it hands the same chain
and the same probe to whatever is made of them. As long as the two attributes are left alone, nobody
who asks about the request needs a router for the answer.
-/

namespace RouteProbe

/-- A policy outcome that is left on a request is remembered. -/
theorem Store.rememberedPolicy?_remember (store : Store) (request : Request) (bound : BoundRouter)
    (policy : Option CorsPolicy) :
    (store.remember request bound policy).1.rememberedPolicy? = some policy := by
  simp only [remember, Request.rememberedPolicy?, Request.attribute?_setAttribute_self]
  rfl

/-- What comes about inside a scope whose answers are left alone: whoever wants to may ask, and all
else may change. -/
inductive Visit.Undisturbed {σ : Type} (inside : Visit σ) : Visit σ → Prop
  | start : Undisturbed inside inside
  | askRouter {reached : Visit σ} (before : Undisturbed inside reached) (asker : Introspector) :
      Undisturbed inside
        { reached with store := (asker.boundRouter reached.store reached.request).2 }
  | askPolicy {reached : Visit σ} (before : Undisturbed inside reached) (asker : Introspector) :
      Undisturbed inside
        { reached with store := (asker.corsPolicy reached.store reached.request).2 }
  | work {reached later : Visit σ} (before : Undisturbed inside reached)
      (answers : CacheSnapshot.take later.request = CacheSnapshot.take reached.request)
      (kept : reached.store.KeptIn later.store) : Undisturbed inside later

namespace Introspector

variable {introspector : Introspector} {store inside : Store} {request filled : Request}
  {bound : BoundRouter} {policy : Option CorsPolicy}

theorem boundRouter_of_remembered (asker : Introspector)
    (remembered : store.remembered? request = some bound) :
    asker.boundRouter store request = (.ok (some bound), store) := by
  rw [boundRouter, remembered]

theorem corsPolicy_of_remembered (asker : Introspector)
    (remembered : request.rememberedPolicy? = some policy) :
    asker.corsPolicy store request = (.ok policy, store) := by
  rw [corsPolicy, remembered]

/-- Both answers are made of one chain and one probe, which any other question comes to as well if
errors are not ignored. -/
theorem exists_chain_of_findAnswers
    (found : (introspector.findAnswers request).outcome = .ok (some (bound, policy))) :
    ∃ entry chain probe, entry.bind probe = .ok bound ∧ chain.corsPolicy probe = .ok policy ∧
      ∀ {α : Type} (extract : Pass.Extractor α),
        (introspector.pass false extract request).outcome =
          (extract entry chain probe).1.map some := by
  cases listed : introspector.registry.entries? with
  | none =>
    simp only [findAnswers, pass, Pass.run, RouterRegistry.require, listed] at found
    cases found
  | some entries =>
    rw [findAnswers_outcome listed] at found
    obtain ⟨first, begins, asked⟩ := bind_eq_ok_iff.mp found
    obtain ⟨before, entry, after, last, chain, rfl, passage, answered, made⟩ :=
      Pass.ask_eq_found asked
    obtain ⟨value, binding, rest⟩ := bind_eq_ok_iff.mp made
    obtain ⟨outcome, looked, same⟩ := bind_eq_ok_iff.mp rest
    obtain ⟨rfl, rfl⟩ := Prod.mk.inj (pure_eq_ok_iff.mp same)
    refine ⟨entry, chain, entry.leave last, binding, looked, ?_⟩
    intro α extract
    rw [pass, Pass.run_outcome listed, ← firstProbe, begins, ok_bind,
      Pass.ask_outcome_of_chain passage answered]

theorem boundRouter_of_findAnswers (fresh : store.remembered? request = none)
    (found : (introspector.findAnswers request).outcome = .ok (some (bound, policy))) :
    (introspector.boundRouter store request).1 = .ok (some bound) := by
  obtain ⟨entry, chain, probe, binding, _, outcome⟩ := exists_chain_of_findAnswers found
  simp only [boundRouter, fresh, resolve, outcome, Pass.reading_fst, binding]
  rfl

/-- Asked afresh, the policy is the one that the pass for both answers finds, although errors are
ignored. -/
theorem corsPolicy_of_findAnswers (store : Store) (unknown : request.rememberedPolicy? = none)
    (found : (introspector.findAnswers request).outcome = .ok (some (bound, policy))) :
    (introspector.corsPolicy store request).1 = .ok policy := by
  obtain ⟨entry, chain, probe, _, looked, outcome⟩ := exists_chain_of_findAnswers found
  have strict := outcome (Pass.reading fun _ chain probe => chain.corsPolicy probe)
  rw [Pass.reading_fst, looked] at strict
  have lenient := Pass.run_ignoring_of_ok strict
  simp only [corsPolicy, unknown, resolve, pass, lenient]
  rw [← pass, strict]
  rfl

theorem found_of_fill (fresh : store.remembered? request = none)
    (ran : introspector.fill store request = (.ok filled, inside))
    (matched : inside.remembered? filled = some bound) :
    ∃ policy, (introspector.findAnswers request).outcome = .ok (some (bound, policy)) ∧
      filled.rememberedPolicy? = some policy := by
  obtain ⟨policy, found⟩ := findAnswers_of_fill fresh ran matched
  refine ⟨policy, found, ?_⟩
  simp only [fill, found] at ran
  obtain ⟨same, _⟩ := Prod.mk.inj ran
  obtain rfl := Except.ok.inj same
  exact Store.rememberedPolicy?_remember _ _ _ _

end Introspector

/-- Both answers stay where they are. -/
theorem Visit.Undisturbed.remembered {σ : Type} {inside reached : Visit σ} {bound : BoundRouter}
    {policy : Option CorsPolicy} (undisturbed : inside.Undisturbed reached)
    (router : inside.store.remembered? inside.request = some bound)
    (known : inside.request.rememberedPolicy? = some policy) :
    reached.store.remembered? reached.request = some bound ∧
      reached.request.rememberedPolicy? = some policy := by
  induction undisturbed with
  | start => exact ⟨router, known⟩
  | askRouter _ asker ih =>
    rw [asker.boundRouter_of_remembered ih.1]
    exact ih
  | askPolicy _ asker ih =>
    rw [asker.corsPolicy_of_remembered ih.2]
    exact ih
  | work _ answers kept ih =>
    obtain ⟨sameRouter, samePolicy⟩ := CacheSnapshot.take_eq_take_iff.mp answers
    refine ⟨kept.remembered?_eq sameRouter ih.1, ?_⟩
    rw [Request.rememberedPolicy?, samePolicy]
    exact ih.2

/-- If a router takes a request that has been filled in, both questions are answered inside as they
are answered afresh on the request itself, and as long as nobody disturbs the answers it does not
matter who asks, how often, and what routers would say: nothing is added to the journal, and
nobody's routers decide on the answer. -/
theorem Introspector.undisturbed_answers {introspector : Introspector} {store inside : Store}
    {request filled : Request} {bound : BoundRouter} (fresh : store.remembered? request = none)
    (unknown : request.rememberedPolicy? = none)
    (ran : introspector.fill store request = (.ok filled, inside))
    (matched : inside.remembered? filled = some bound) :
    ∃ policy,
      (introspector.boundRouter store request).1 = .ok (some bound) ∧
        (introspector.corsPolicy store request).1 = .ok policy ∧
        ∀ {σ : Type} (host : σ) (reached : Visit σ),
          Visit.Undisturbed ⟨filled, inside, host⟩ reached → ∀ asker : Introspector,
            asker.boundRouter reached.store reached.request = (.ok (some bound), reached.store) ∧
              asker.corsPolicy reached.store reached.request = (.ok policy, reached.store) := by
  obtain ⟨policy, found, known⟩ := found_of_fill fresh ran matched
  have router := boundRouter_of_findAnswers fresh found
  have looked := corsPolicy_of_findAnswers store unknown found
  refine ⟨policy, router, looked, ?_⟩
  intro σ host reached undisturbed asker
  obtain ⟨bound, outcome⟩ := undisturbed.remembered matched known
  exact ⟨asker.boundRouter_of_remembered bound, asker.corsPolicy_of_remembered outcome⟩

section

private abbrev newsRouter : Router := (PatternRouter.below "news" .resolved).toRouter.counted

private abbrev newsIntrospector : Introspector where
  context := {}
  registry := ⟨some [⟨newsRouter, none⟩]⟩

private abbrev newsRequest : Request :=
  Request.setAttribute { uri := ⟨none, none, "/news//a;v=1", none⟩ } AttributeName.boundRouter
    (.foreign 1)

private abbrev newsBound : BoundRouter :=
  .resolved newsRouter ⟨none, (PatternRouter.below "news" .resolved).matchPattern⟩ "/news/a"

private abbrev newsFilled : Request :=
  (newsRequest.setAttribute AttributeName.boundRouter (.boundRouter 0)).setAttribute
    AttributeName.corsOutcome (.corsOutcome none)

/-- The store with the bound router. -/
private abbrev newsStore : Store where
  bound := [newsBound]
  journal := [.call "news"]

/-- The router is asked once. Whoever asks for the answers afterwards, be it an introspector without
a registry, gets them without its being called again, also after other work. -/
theorem Introspector.undisturbed_answers_news :
    ({} : Store).remembered? newsRequest = none ∧ newsRequest.rememberedPolicy? = none ∧
      newsIntrospector.fill {} newsRequest = (.ok newsFilled, newsStore) ∧
      newsStore.remembered? newsFilled = some newsBound ∧
      ∃ policy,
        (newsIntrospector.boundRouter {} newsRequest).1 = .ok (some newsBound) ∧
          (newsIntrospector.corsPolicy {} newsRequest).1 = .ok policy ∧
          let worked := newsFilled.removeAttribute AttributeName.lookupPath
          (Introspector.mk {} {} {}).boundRouter newsStore worked =
              (.ok (some newsBound), newsStore) ∧
            (Introspector.mk {} {} {}).corsPolicy newsStore worked = (.ok policy, newsStore) := by
  have fresh : ({} : Store).remembered? newsRequest = none := by rfl
  have unknown : newsRequest.rememberedPolicy? = none := by rfl
  have ran : newsIntrospector.fill {} newsRequest = (.ok newsFilled, newsStore) := by rfl
  have matched : newsStore.remembered? newsFilled = some newsBound := by rfl
  obtain ⟨policy, router, looked, undisturbed⟩ := undisturbed_answers fresh unknown ran matched
  have worked : Visit.Undisturbed ⟨newsFilled, newsStore, ()⟩
      ⟨newsFilled.removeAttribute AttributeName.lookupPath, newsStore, ()⟩ :=
    .work (.askPolicy (.askRouter .start newsIntrospector) newsIntrospector) (by decide)
      (Store.KeptIn.refl _)
  exact ⟨fresh, unknown, ran, matched, policy, router, looked, undisturbed () _ worked _⟩

end

end RouteProbe
