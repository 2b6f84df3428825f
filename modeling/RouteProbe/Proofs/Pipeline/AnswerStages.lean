import RouteProbe.Pipeline.AnswerStage
import RouteProbe.Pipeline.CorsStage
import RouteProbe.Proofs.Lookup.GuardedRuns

/-! # Pipelines with answer stages

A stage that leaves answers on the request puts back what was there before, whether the rest of the
run has answered or is still pending when the request is given up. So a pipeline that begins with
such a stage leaves both attributes as they were, whatever its other stages and the handler do, and
each answer stage further inside leaves them to the stages in front of it as it found them. Main
statement: what holds after every run of such a pipeline, and what becomes of a run that comes to an
answer stage whose introspection fails.
-/

namespace RouteProbe

variable {σ : Type}

namespace Stage

/-- Whether the stage keeps the bound routers of the store, if the rest of the run does. -/
def Keeps (stage : Stage σ) : Prop :=
  ∀ next : Next σ, Visit.KeepsBound next → Visit.KeepsBound (stage.process next)

end Stage

namespace Pipeline

/-- Stages keep the bound routers if each of them does. -/
theorem run_keeps {pipeline : Pipeline σ} {handler : Next σ}
    (stages : ∀ stage ∈ pipeline, stage.Keeps) (handled : Visit.KeepsBound handler) :
    Visit.KeepsBound (pipeline.run handler) := by
  induction pipeline with
  | nil => exact handled
  | cons stage rest ih =>
    have later := ih fun other member => stages other (List.mem_cons_of_mem stage member)
    exact stages stage List.mem_cons_self (Pipeline.run rest handler) later

theorem run_append (front rear : Pipeline σ) (handler : Next σ) :
    Pipeline.run (front ++ rear) handler = front.run (rear.run handler) :=
  List.foldr_append

end Pipeline

namespace Introspector

variable {introspector : Introspector} {visit : Visit σ}

theorem stage_process_of_error {error : RoutingError}
    (fails : (introspector.findAnswers visit.request).outcome = .error error) (next : Next σ) :
    introspector.stage.process next visit =
      (.done (.ofError (.introspection error)),
        { visit with store := introspector.storeOfFailure visit error }) := by
  simp only [stage, withAnswers_of_error fails]

/-- What the stage leaves is what is left of running the rest with the answers on the request. -/
theorem stage_process_snd (introspector : Introspector) (next : Next σ) (visit : Visit σ) :
    (introspector.stage.process next visit).2 =
      (introspector.withAnswers visit fun visit => next (visit.notify (.cachePopulated
        visit.request.path (visit.store.remembered? visit.request).isSome))).2 := by
  simp only [stage]
  split <;> simp_all

/-- However the rest of the run ends, both attributes are as they were. -/
theorem take_stage_process (introspector : Introspector) (next : Next σ) (visit : Visit σ) :
    CacheSnapshot.take (introspector.stage.process next visit).2.request =
      CacheSnapshot.take visit.request := by
  rw [stage_process_snd, take_withAnswers]

theorem stage_keeps (introspector : Introspector) : (introspector.stage (σ := σ)).Keeps := by
  intro next keeps visit
  rw [stage_process_snd]
  exact introspector.withAnswers_keeps (fun visit => keeps (visit.notify _)) visit

/-- Looking a policy up adds nothing but its journal to the store. -/
theorem corsPolicy_keeps (introspector : Introspector) (store : Store) (request : Request) :
    store.KeptIn (introspector.corsPolicy store request).2 := by
  unfold corsPolicy
  split <;> exact .of_eq rfl

end Introspector

/-- The stage for policies keeps the bound routers if its lookup does. -/
theorem corsStage_keeps {lookup : PolicyLookup}
    (keeps : ∀ (store : Store) (request : Request), store.KeptIn (lookup store request).2) :
    (corsStage (σ := σ) lookup).Keeps := by
  intro next later visit
  have looked := keeps visit.store visit.request
  have further := looked.trans (later { visit with store := (lookup visit.store visit.request).2 })
  simp only [corsStage]
  split
  · exact later visit
  · split
    · exact looked
    · exact further
    · split
      · exact looked
      · exact further

/-- A scripted stage keeps them. -/
theorem StageScript.toStage_keeps (script : StageScript) (note : String → σ → σ) :
    (script.toStage note).Keeps := by
  intro next later visit
  have kept := later
    (Visit.mapRequest (fun request =>
      script.sets.foldl (fun request entry => request.setAttribute entry.1 entry.2) request)
      { visit with host := note (script.name ++ ":in") visit.host })
  simp only [toStage]
  split
  · exact Store.KeptIn.refl _
  · split
    next response left ran =>
      rw [ran] at kept
      exact kept
    next left ran =>
      rw [ran] at kept
      exact kept

/-- A pipeline that begins with an answer stage leaves both attributes as they were: after an
answer, after a failure, and if the run is given up while it is pending. Where the other stages and
the handler keep the bound routers, what is there means the same as before. Every answer stage of
the pipeline leaves both attributes to the stages in front of it as it has found them, and if its
introspection fails, its response reports that, and nothing behind it runs. -/
theorem Introspector.take_run_stage (introspector : Introspector) (rest : Pipeline σ)
    (handler : Next σ) (visit : Visit σ) :
    CacheSnapshot.take (Pipeline.run (introspector.stage :: rest) handler visit).2.request =
        CacheSnapshot.take visit.request ∧
    ((∀ stage ∈ rest, stage.Keeps) → Visit.KeepsBound handler →
      visit.store.KeptIn (Pipeline.run (introspector.stage :: rest) handler visit).2.store) ∧
    ∀ (front : Pipeline σ) (inner : Introspector) (rear : Pipeline σ),
      introspector.stage :: rest = front ++ inner.stage :: rear →
        let next := inner.stage.process (Pipeline.run rear handler)
        Pipeline.run (introspector.stage :: rest) handler = Pipeline.run front next ∧
          ∀ reached : Visit σ,
            CacheSnapshot.take (next reached).2.request = CacheSnapshot.take reached.request ∧
              ∀ error, (inner.findAnswers reached.request).outcome = .error error →
                next reached = (.done (.ofError (.introspection error)),
                  { reached with store := inner.storeOfFailure reached error }) := by
  refine ⟨?_, ?_, ?_⟩
  · exact take_stage_process introspector (Pipeline.run rest handler) visit
  · intro stages handled
    exact introspector.stage_keeps _ (Pipeline.run_keeps stages handled) visit
  · intro front inner rear divided
    refine ⟨?_, ?_⟩
    · rw [divided, Pipeline.run_append]
      rfl
    · intro reached
      exact ⟨take_stage_process inner _ reached, fun error fails => stage_process_of_error fails _⟩

section

private abbrev pressIntrospector : Introspector where
  context := {}
  registry := ⟨some [⟨(PatternRouter.below "press" .resolved).toRouter, none⟩]⟩

private abbrev lostIntrospector : Introspector := { context := {} }

private abbrev overwriter : Stage (List String) :=
  StageScript.toStage
    { name := "overwriter",
      sets := [(AttributeName.boundRouter, .flag true), (AttributeName.corsOutcome, .natural 7)] }
    fun text notes => notes ++ [text]

private abbrev stalled : Next (List String) := fun visit => (.pending, visit)

private abbrev pressVisit : Visit (List String) where
  request := Request.setAttribute { uri := ⟨none, none, "/press/a", none⟩ }
    AttributeName.boundRouter (.foreign 1)
  host := []

/-- Two answer stages are open when the run is given up, and both answers have been written over.
What was there in the beginning is there again. Had the inner stage failed, nothing behind it would
have run. -/
theorem Introspector.take_run_stage_stalled :
    let pipeline := [pressIntrospector.stage, pressIntrospector.stage,
      corsStage pressIntrospector.corsPolicy, overwriter]
    (Pipeline.run pipeline stalled pressVisit).1 = .pending ∧
      CacheSnapshot.take (Pipeline.run pipeline stalled pressVisit).2.request =
        ⟨some (.foreign 1), none⟩ ∧
      pressVisit.store.KeptIn (Pipeline.run pipeline stalled pressVisit).2.store ∧
      (lostIntrospector.stage.process (Pipeline.run [overwriter] stalled) pressVisit).1 =
        .done (.ofError (.introspection
          (.illegalState "router registry has not been initialized" none))) := by
  have front := pressIntrospector.take_run_stage
    [pressIntrospector.stage, corsStage pressIntrospector.corsPolicy, overwriter] stalled pressVisit
  have failing := (pressIntrospector.take_run_stage [lostIntrospector.stage, overwriter] stalled
    pressVisit).2.2 [pressIntrospector.stage] lostIntrospector [overwriter] rfl
  refine ⟨by rfl, front.1, front.2.1 ?_ ?_, ?_⟩
  · simp only [List.forall_mem_cons, List.not_mem_nil, false_imp_iff, implies_true, and_true]
    exact ⟨pressIntrospector.stage_keeps, corsStage_keeps pressIntrospector.corsPolicy_keeps,
      StageScript.toStage_keeps _ _⟩
  · exact fun visit => Store.KeptIn.refl visit.store
  · exact congrArg Prod.fst ((failing.2 pressVisit).2 _ rfl)

end

end RouteProbe
