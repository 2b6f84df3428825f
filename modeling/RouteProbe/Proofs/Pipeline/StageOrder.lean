import RouteProbe.Pipeline.AnswerStage
import RouteProbe.Proofs.Pipeline.RegularRequests

/-! # The order of stages

A stage in two parts acts on the request, and then either stops with an outcome of its own or lets
the rest run once and acts on the response. Its parts can be recorded as they run, together with
what each of them takes and gives. Main statement: the record of a pipeline of such stages shows the
entry parts of the stages in order until one of them stops, or else the handler after all of them,
and then the exit parts of the stages before in the opposite order, each taking what the one before
has given. It is also shown that wrapping the handler from the last stage to the first is nesting
them by hand.
-/

namespace RouteProbe

variable {σ : Type}

/-! ## Stages in two parts -/

attribute [ext] Stage

/-- What a stage does after the rest of the run. -/
structure StageExit (σ : Type) where
  /-- With a response. -/
  answer : Response → Visit σ → Outcome × Visit σ
  /-- If the request has been given up before there was one. -/
  cleanUp : Visit σ → Visit σ := id

/-- Leaves a stage with what the rest of the run has come to. -/
def StageExit.leave (exit : StageExit σ) : Outcome × Visit σ → Outcome × Visit σ
  | (.done response, visit) => exit.answer response visit
  | (.pending, visit) => (.pending, exit.cleanUp visit)

/-- How the entry part of a stage ends. -/
inductive StageEntry (σ : Type)
  /-- The rest does not run. -/
  | stop (outcome : Outcome)
  | goOn (exit : StageExit σ)

/-- A stage that lets the rest run at most once, with what it does before and after. -/
structure TwoPartStage (σ : Type) where
  name : String
  enter : Visit σ → StageEntry σ × Visit σ

/-- The stage as one function of the rest of the run. -/
def TwoPartStage.toStage (stage : TwoPartStage σ) : Stage σ where
  name := stage.name
  process := fun next visit =>
    match stage.enter visit with
    | (.stop outcome, left) => (outcome, left)
    | (.goOn exit, inside) => exit.leave (next inside)

namespace TwoPartStage

variable {stage : TwoPartStage σ} {visit : Visit σ}

theorem process_of_stop {outcome : Outcome} {left : Visit σ}
    (stops : stage.enter visit = (.stop outcome, left)) (next : Next σ) :
    stage.toStage.process next visit = (outcome, left) := by
  simp only [toStage, stops]

theorem process_of_goOn {exit : StageExit σ} {inside : Visit σ}
    (goesOn : stage.enter visit = (.goOn exit, inside)) (next : Next σ) :
    stage.toStage.process next visit = exit.leave (next inside) := by
  simp only [toStage, goesOn]

/-- A scripted stage. -/
def ofScript (script : StageScript) (note : String → σ → σ) : TwoPartStage σ where
  name := script.name
  enter := fun visit =>
    let mark := fun (text : String) (visit : Visit σ) => { visit with host := note text visit.host }
    let visit := (mark (script.name ++ ":in") visit).mapRequest fun request =>
      script.sets.foldl (fun request entry => request.setAttribute entry.1 entry.2) request
    match script.outcome with
    | some outcome => (.stop outcome, visit)
    | none =>
      (.goOn { answer := fun response visit =>
        (.done response, mark (s!"{script.name}:out:" ++ toString response.status) visit) }, visit)

def ofPolicies (lookup : PolicyLookup) : TwoPartStage σ where
  name := "cors"
  enter := fun visit =>
    match StageAction.ofPolicies lookup visit.store visit.request with
    | .answers response store => (.stop (.done response), { visit with store })
    | .relays store change =>
      (.goOn { answer := fun response visit => (.done (change response), visit) },
        { visit with store })

def ofIntrospector (introspector : Introspector) : TwoPartStage σ where
  name := "introspection_cache"
  enter := fun visit =>
    match introspector.fill visit.store visit.request with
    | (.error error, store) => (.stop (.done (.ofError error)), { visit with store })
    | (.ok request, store) =>
      let putBack := Visit.mapRequest (CacheSnapshot.take visit.request).restore
      let matched := (store.remembered? request).isSome
      (.goOn { answer := fun response visit => (.done response, putBack visit), cleanUp := putBack },
        { visit with request, store }.notify (.cachePopulated request.path matched))

theorem toStage_ofScript (script : StageScript) (note : String → σ → σ) :
    (ofScript script note).toStage = script.toStage note := by
  ext next visit : 3
  · rfl
  · simp only [toStage, ofScript, StageScript.toStage]
    cases script.outcome with
    | some outcome => rfl
    | none =>
      simp only [StageExit.leave]
      generalize next _ = result
      obtain ⟨outcome, left⟩ := result
      cases outcome <;> rfl

theorem toStage_ofPolicies (lookup : PolicyLookup) :
    (ofPolicies lookup).toStage = (corsStage lookup : Stage σ) := by
  ext next visit : 3
  · rfl
  · rw [corsStage_process_eq]
    simp only [toStage, ofPolicies]
    cases StageAction.ofPolicies lookup visit.store visit.request with
    | answers response store => rfl
    | relays store change =>
      simp only [StageAction.process, StageExit.leave]
      generalize next _ = result
      obtain ⟨outcome, left⟩ := result
      cases outcome <;> rfl

theorem toStage_ofIntrospector (introspector : Introspector) :
    (ofIntrospector introspector).toStage = (introspector.stage : Stage σ) := by
  ext next visit : 3
  · rfl
  · simp only [toStage, ofIntrospector, Introspector.stage, Introspector.withAnswers]
    cases introspector.fill visit.store visit.request with
    | mk result store =>
      cases result with
      | error error => rfl
      | ok request =>
        simp only [StageExit.leave]
        generalize next _ = result
        obtain ⟨outcome, left⟩ := result
        cases outcome <;> rfl

end TwoPartStage

/-! ## Records -/

/-- The parts of a run, where the stages are counted from the outermost. -/
inductive RunPart
  | entry (position : Nat)
  | handler
  | exit (position : Nat)
  deriving DecidableEq, Repr

/-- What goes from one part of a run to the next. -/
inductive PartValue (σ : Type)
  /-- A visit on its way to the handler. -/
  | inward (visit : Visit σ)
  /-- An outcome and the visit that it is for, on their way back. -/
  | outward (result : Outcome × Visit σ)

/-- One part of a run, with what it has taken and what it has given. -/
structure PartRun (σ : Type) where
  part : RunPart
  taken : PartValue σ
  given : PartValue σ

/-- What the surroundings keep, and a record of the parts that have run so far. -/
abbrev Recorded (σ : Type) := σ × List (PartRun σ)

namespace Visit

def withRecord (visit : Visit σ) (record : List (PartRun σ)) : Visit (Recorded σ) :=
  { visit with host := (visit.host, record) }

/-- The visit without its record. -/
def unrecorded (visit : Visit (Recorded σ)) : Visit σ := { visit with host := visit.host.1 }

@[simp] theorem unrecorded_withRecord (visit : Visit σ) (record : List (PartRun σ)) :
    (visit.withRecord record).unrecorded = visit := rfl

end Visit

/-- A result with a record. -/
def withRecord (result : Outcome × Visit σ) (record : List (PartRun σ)) :
    Outcome × Visit (Recorded σ) :=
  (result.1, result.2.withRecord record)

/-- The handler, which records that it has run. -/
def Next.recorded (handler : Next σ) : Next (Recorded σ) := fun visit =>
  let result := handler visit.unrecorded
  withRecord result (visit.host.2 ++ [⟨.handler, .inward visit.unrecorded, .outward result⟩])

/-- The exit part of the stage at a position, which records that it has run. -/
def StageExit.recorded (exit : StageExit σ) (position : Nat) : StageExit (Recorded σ) where
  answer := fun response visit =>
    let found := (.done response, visit.unrecorded)
    let result := exit.leave found
    withRecord result (visit.host.2 ++ [⟨.exit position, .outward found, .outward result⟩])
  cleanUp := fun visit =>
    let found := (.pending, visit.unrecorded)
    let result := exit.leave found
    result.2.withRecord (visit.host.2 ++ [⟨.exit position, .outward found, .outward result⟩])

/-- The stage at a position, each part of which records that it has run. -/
def TwoPartStage.recorded (stage : TwoPartStage σ) (position : Nat) :
    TwoPartStage (Recorded σ) where
  name := stage.name
  enter := fun visit =>
    let recordOf := fun given => visit.host.2 ++ [⟨.entry position, .inward visit.unrecorded, given⟩]
    match stage.enter visit.unrecorded with
    | (.stop outcome, left) => (.stop outcome, left.withRecord (recordOf (.outward (outcome, left))))
    | (.goOn exit, inside) =>
      (.goOn (exit.recorded position), inside.withRecord (recordOf (.inward inside)))

theorem StageExit.leave_recorded (exit : StageExit σ) (position : Nat) (result : Outcome × Visit σ)
    (record : List (PartRun σ)) :
    (exit.recorded position).leave (withRecord result record) =
      withRecord (exit.leave result)
        (record ++ [⟨.exit position, .outward result, .outward (exit.leave result)⟩]) := by
  obtain ⟨outcome, visit⟩ := result
  cases outcome <;> rfl

/-- How a stage has run that let the rest run. -/
structure StagePassage (σ : Type) where
  stage : TwoPartStage σ
  position : Nat
  entered : Visit σ
  exit : StageExit σ
  inside : Visit σ
  goesOn : stage.enter entered = (.goOn exit, inside)
  /-- What the rest of the run has come to. -/
  found : Outcome × Visit σ

namespace StagePassage

/-- The run of the entry part. -/
def entryRun (passage : StagePassage σ) : PartRun σ :=
  ⟨.entry passage.position, .inward passage.entered, .inward passage.inside⟩

/-- The run of the exit part. -/
def exitRun (passage : StagePassage σ) : PartRun σ :=
  ⟨.exit passage.position, .outward passage.found, .outward (passage.exit.leave passage.found)⟩

end StagePassage

/-- The innermost part of a run, after which it is on its way back: the entry part of the next
stage, which stops, or the handler if there is none. -/
inductive InnermostPart (handler : Next σ) : List (TwoPartStage σ × Nat) → PartRun σ → Prop
  | handler (visit : Visit σ) :
      InnermostPart handler [] ⟨.handler, .inward visit, .outward (handler visit)⟩
  | stop {stage : TwoPartStage σ} {visit left : Visit σ} {outcome : Outcome} (position : Nat)
      (further : List (TwoPartStage σ × Nat)) (stops : stage.enter visit = (.stop outcome, left)) :
      InnermostPart handler ((stage, position) :: further)
        ⟨.entry position, .inward visit, .outward (outcome, left)⟩

/-- Each of these parts takes what the one before it has given. -/
def PassedOn : PartValue σ → List (PartRun σ) → PartValue σ → Prop
  | first, [], last => first = last
  | first, run :: rest, last => run.taken = first ∧ PassedOn run.given rest last

/-- A run through stages in order, up to the first one that stops or to the handler, and back. -/
structure InOrder (handler : Next σ) (stages : List (TwoPartStage σ × Nat)) (visit : Visit σ)
    (record : List (PartRun σ)) (result : Outcome × Visit σ) : Prop where
  parts : ∃ (passages : List (StagePassage σ)) (further : List (TwoPartStage σ × Nat))
      (innermost : PartRun σ),
    stages = (passages.map fun passage => (passage.stage, passage.position)) ++ further ∧
    InnermostPart handler further innermost ∧
    record = passages.map StagePassage.entryRun ++
      innermost :: (passages.map StagePassage.exitRun).reverse
  passedOn : PassedOn (.inward visit) record (.outward result)

theorem passedOn_append {first last : PartValue σ} {earlier later : List (PartRun σ)} :
    PassedOn first (earlier ++ later) last ↔
      ∃ between, PassedOn first earlier between ∧ PassedOn between later last := by
  induction earlier generalizing first with
  | nil => simp [PassedOn]
  | cons run rest ih => simp [PassedOn, ih, and_assoc]

namespace InOrder

variable {handler : Next σ} {stages : List (TwoPartStage σ × Nat)} {stage : TwoPartStage σ}
  {visit : Visit σ} {record : List (PartRun σ)} {result : Outcome × Visit σ}

theorem of_handler (visit : Visit σ) :
    InOrder handler [] visit [⟨.handler, .inward visit, .outward (handler visit)⟩] (handler visit) :=
  ⟨⟨[], [], _, rfl, .handler visit, rfl⟩, rfl, rfl⟩

theorem of_stop {outcome : Outcome} {left : Visit σ} (position : Nat)
    (stops : stage.enter visit = (.stop outcome, left)) :
    InOrder handler ((stage, position) :: stages) visit
      [⟨.entry position, .inward visit, .outward (outcome, left)⟩] (outcome, left) :=
  ⟨⟨[], _, _, rfl, .stop position stages stops, rfl⟩, rfl, rfl⟩

/-- A stage that goes on puts its entry part in front of the run of the rest and its exit part
behind. -/
theorem of_goOn {exit : StageExit σ} {inside : Visit σ} (position : Nat)
    (goesOn : stage.enter visit = (.goOn exit, inside))
    (rest : InOrder handler stages inside record result) :
    InOrder handler ((stage, position) :: stages) visit
      (⟨.entry position, .inward visit, .inward inside⟩ :: record ++
        [⟨.exit position, .outward result, .outward (exit.leave result)⟩]) (exit.leave result) := by
  obtain ⟨⟨passages, further, innermost, split, isInnermost, recorded⟩, passed⟩ := rest
  refine ⟨?parts, ?passedOn⟩
  case parts =>
    let passage : StagePassage σ := ⟨stage, position, visit, exit, inside, goesOn, result⟩
    refine ⟨passage :: passages, further, innermost, ?_, isInnermost, ?_⟩
    · rw [split]
      rfl
    · simp [passage, recorded, StagePassage.entryRun, StagePassage.exitRun]
  case passedOn =>
    refine ⟨rfl, ?_⟩
    exact passedOn_append.mpr ⟨_, passed, rfl, rfl⟩

theorem part_of_innermost {further : List (TwoPartStage σ × Nat)} {innermost : PartRun σ}
    (isInnermost : InnermostPart handler further innermost) :
    innermost.part = (further.head?.map fun next => RunPart.entry next.2).getD .handler := by
  cases isInnermost <;> rfl

/-- The parts in the order in which they have run: so many entry parts in the order of the stages,
the entry part of the next stage, or the handler if there is none, and the exit parts of the stages
before in the opposite order. -/
theorem parts_eq {stages : List (TwoPartStage σ)}
    (inOrder : InOrder handler stages.zipIdx visit record result) :
    ∃ passed ≤ stages.length,
      record.map PartRun.part = (List.range passed).map RunPart.entry ++
        (if passed < stages.length then .entry passed else .handler) ::
          ((List.range passed).map RunPart.exit).reverse := by
  obtain ⟨⟨passages, further, innermost, split, isInnermost, recorded⟩, _⟩ := inOrder
  -- The places of the stages are the numbers from zero, so those passed are the first of them.
  have positions : List.range stages.length =
      passages.map StagePassage.position ++ further.map Prod.snd := by
    have listed := congrArg (List.map Prod.snd) split
    rw [List.zipIdx_map_snd, ← List.range_eq_range'] at listed
    simpa [Function.comp_def] using listed
  have lengths : stages.length = passages.length + further.length := by
    simpa using congrArg List.length positions
  have bounded : passages.length ≤ stages.length := by omega
  have passed : passages.map StagePassage.position = List.range passages.length := by
    have taken := congrArg (List.take passages.length) positions
    rw [List.take_range, Nat.min_eq_left bounded, List.take_left' (List.length_map _)] at taken
    exact taken.symm
  have next : innermost.part =
      if passages.length < stages.length then .entry passages.length else .handler := by
    rw [part_of_innermost isInnermost]
    cases further with
    | nil => simp [lengths]
    | cons stopping rest =>
      have inside : passages.length < stages.length := by simp [lengths]
      have position : passages.length = stopping.2 := by
        simpa [inside] using congrArg (fun list => list[passages.length]?) positions
      rw [if_pos inside, position]
      rfl
  refine ⟨passages.length, bounded, ?_⟩
  rw [recorded, ← passed, ← next]
  simp [StagePassage.entryRun, StagePassage.exitRun, Function.comp_def]

end InOrder

namespace TwoPartStage

variable {stage : TwoPartStage σ} {visit : Visit σ}

theorem process_recorded_of_stop {outcome : Outcome} {left : Visit σ}
    (stops : stage.enter visit = (.stop outcome, left)) (position : Nat)
    (record : List (PartRun σ)) (next : Next (Recorded σ)) :
    (stage.recorded position).toStage.process next (visit.withRecord record) =
      withRecord (outcome, left)
        (record ++ [⟨.entry position, .inward visit, .outward (outcome, left)⟩]) := by
  simp only [toStage, recorded, Visit.unrecorded_withRecord, stops]
  rfl

theorem process_recorded_of_goOn {exit : StageExit σ} {inside : Visit σ}
    (goesOn : stage.enter visit = (.goOn exit, inside)) (position : Nat)
    (record : List (PartRun σ)) (next : Next (Recorded σ)) :
    (stage.recorded position).toStage.process next (visit.withRecord record) =
      (exit.recorded position).leave (next (inside.withRecord
        (record ++ [⟨.entry position, .inward visit, .inward inside⟩]))) := by
  simp only [toStage, recorded, Visit.unrecorded_withRecord, goesOn]
  rfl

end TwoPartStage

namespace Pipeline

/-- The pipeline of these stages. -/
def ofTwoParts (stages : List (TwoPartStage σ)) : Pipeline σ := stages.map TwoPartStage.toStage

/-- The pipeline of these stages, which record what they do. -/
def recorded (stages : List (TwoPartStage σ × Nat)) : Pipeline (Recorded σ) :=
  stages.map fun (stage, position) => (stage.recorded position).toStage

theorem run_ofTwoParts_cons (stage : TwoPartStage σ) (stages : List (TwoPartStage σ))
    (handler : Next σ) :
    (ofTwoParts (stage :: stages)).run handler =
      stage.toStage.process ((ofTwoParts stages).run handler) := rfl

theorem run_recorded_cons (stage : TwoPartStage σ) (position : Nat)
    (stages : List (TwoPartStage σ × Nat)) (handler : Next (Recorded σ)) :
    (recorded ((stage, position) :: stages)).run handler =
      (stage.recorded position).toStage.process ((recorded stages).run handler) := rfl

/-- Recording changes nothing else, and what is recorded is a run in order. -/
theorem run_recorded (stages : List (TwoPartStage σ × Nat)) (handler : Next σ) (visit : Visit σ)
    (before : List (PartRun σ)) :
    let result := (ofTwoParts (stages.map Prod.fst)).run handler visit
    ∃ record,
      (recorded stages).run handler.recorded (visit.withRecord before) =
        withRecord result (before ++ record) ∧
      InOrder handler stages visit record result := by
  -- The rest of the stages runs from what the first one leaves and from a longer record.
  induction stages generalizing visit before with
  | nil => exact ⟨_, rfl, .of_handler visit⟩
  | cons labelled stages ih =>
    obtain ⟨stage, position⟩ := labelled
    rw [List.map_cons, run_ofTwoParts_cons, run_recorded_cons]
    match entered : stage.enter visit with
    | (.stop outcome, left) =>
      rw [TwoPartStage.process_of_stop entered, TwoPartStage.process_recorded_of_stop entered]
      exact ⟨_, rfl, .of_stop position entered⟩
    | (.goOn exit, inside) =>
      obtain ⟨record, ran, inOrder⟩ :=
        ih inside (before ++ [⟨.entry position, .inward visit, .inward inside⟩])
      rw [TwoPartStage.process_of_goOn entered, TwoPartStage.process_recorded_of_goOn entered, ran,
        StageExit.leave_recorded]
      refine ⟨_, ?_, .of_goOn position entered inOrder⟩
      simp

/-- The second of three stages answers by itself. -/
example :
    let stages : List (TwoPartStage Unit) :=
      [{ name := "log" }, { name := "gate", outcome := some (.done { status := 503 }) },
        { name := "tenant" }].map fun script => .ofScript script fun _ host => host
    let handler : Next Unit := fun visit => (.done { status := 200 }, visit)
    let visit : Visit Unit := { request := { uri := ⟨none, none, "/", none⟩ }, host := () }
    ((recorded stages.zipIdx).run handler.recorded (visit.withRecord [])).2.host.2.map
      PartRun.part = [.entry 0, .entry 1, .exit 0] := rfl

end Pipeline

/-! ## Nesting by hand -/

/-- The rest of a run as it is put together: the handler, or a stage around the rest of the rest. -/
inductive Continuation (σ : Type)
  | handler (answer : Next σ)
  | around (stage : Stage σ) (next : Continuation σ)

/-- Runs what has been put together. -/
def Continuation.run : Continuation σ → Next σ
  | handler answer => answer
  | around stage next => stage.process next.run

namespace Pipeline

/-- The stages wrapped around the handler one by one, the last one first. -/
def wrap (pipeline : Pipeline σ) (handler : Next σ) : Continuation σ :=
  pipeline.reverse.foldl (fun next stage => .around stage next) (.handler handler)

/-- The stages nested by hand, the first one outermost. -/
def nest : Pipeline σ → Next σ → Continuation σ
  | [], handler => .handler handler
  | stage :: rest, handler => .around stage (nest rest handler)

theorem wrap_eq_nest (pipeline : Pipeline σ) (handler : Next σ) :
    pipeline.wrap handler = pipeline.nest handler := by
  rw [wrap, List.foldl_reverse]
  induction pipeline with
  | nil => rfl
  | cons stage rest ih => rw [List.foldr_cons, ih, nest]

theorem run_nest (pipeline : Pipeline σ) (handler : Next σ) :
    (pipeline.nest handler).run = pipeline.run handler := by
  induction pipeline with
  | nil => rfl
  | cons stage rest ih => rw [nest, Continuation.run, ih, run, run, List.foldr_cons]

/-- A run of stages in two parts is one in order, and its record shows all parts that have run: the
entry parts up to the first stage that stops, or else the handler, and the exit parts of the stages
before in the opposite order. And wrapping stages of any kind around the handler one by one, the
last one first, is nesting them by hand, and it is what a run of the pipeline runs. -/
theorem run_inOrder (stages : List (TwoPartStage σ)) (handler : Next σ) (visit : Visit σ) :
    (let result := (ofTwoParts stages).run handler visit
      ∃ record,
        (recorded stages.zipIdx).run handler.recorded (visit.withRecord []) =
          withRecord result record ∧
        InOrder handler stages.zipIdx visit record result ∧
        ∃ passed ≤ stages.length,
          record.map PartRun.part = (List.range passed).map RunPart.entry ++
            (if passed < stages.length then .entry passed else .handler) ::
              ((List.range passed).map RunPart.exit).reverse) ∧
      ∀ pipeline : Pipeline σ,
        pipeline.wrap handler = pipeline.nest handler ∧
          (pipeline.nest handler).run = pipeline.run handler := by
  refine ⟨?ordered, fun pipeline => ⟨pipeline.wrap_eq_nest handler, pipeline.run_nest handler⟩⟩
  obtain ⟨record, ran, inOrder⟩ := run_recorded stages.zipIdx handler visit []
  rw [List.zipIdx_map_fst] at ran inOrder
  exact ⟨record, ran, inOrder, inOrder.parts_eq⟩

end Pipeline

end RouteProbe
