import Mathlib.Data.List.Basic
import RouteProbe.Proofs.Lookup.Passages
import RouteProbe.Proofs.Request.RestoredAttributes
import RouteProbe.Proofs.Route.PatternRouters

/-! # Traces of passes

A pass makes one call after another: it calls the routers of a registry in their order, each on the
probe that the one before it has left, and stops at the first one that decides. The calls that would
be made if no router decided are `routerCalls`; an `AskTrace` relates the calls that are made to
their result. A `PassTrace` adds the splitting of the path before the first call, and the restoring
after the last. Main statement: every pass through a registry has such a trace, whatever the
extractor does, and a pass without an error has the same one whether failures are ignored or not.
-/

namespace RouteProbe

/-- An entry that is asked, and the probe that it is asked about. -/
structure RouterCall where
  entry : RegisteredRouter
  probe : Request

namespace RouterCall

/-- What the router answers. -/
def answer (call : RouterCall) : Except RoutingError (Option Chain) :=
  call.entry.answer call.probe

/-- The probe as the router leaves it. -/
def left (call : RouterCall) : Request := call.entry.leave call.probe

/-- Whether the next router is asked after this one. -/
def PassesOver (ignoring : Bool) (call : RouterCall) : Prop :=
  call.entry.PassesOver ignoring call.probe

/-- What a call adds to the journal: what the router does, and a failure that is ignored. -/
def notes (ignoring : Bool) (call : RouterCall) : Journal :=
  (call.entry.router.resolve call.probe).journal ++
    match ignoring, call.answer with
    | true, .error error => [.notice (.ignoredFailure call.entry.router.name error.message)]
    | _, _ => []

theorem notes_of_ok {call : RouterCall} {result : Option Chain}
    (answered : call.entry.answer call.probe = .ok result) (ignoring : Bool) :
    call.notes ignoring = (call.entry.router.resolve call.probe).journal := by
  cases ignoring <;> simp [notes, answer, answered]

end RouterCall

/-- The calls on a probe if no router decides. -/
def routerCalls : List RegisteredRouter → Request → List RouterCall
  | [], _ => []
  | entry :: rest, probe => ⟨entry, probe⟩ :: routerCalls rest (entry.leave probe)

/-- The probe as the last of the routers leaves it. -/
def leaveAll : List RegisteredRouter → Request → Request
  | [], probe => probe
  | entry :: rest, probe => leaveAll rest (entry.leave probe)

/-- Every entry is asked once, in order. -/
@[simp] theorem map_entry_routerCalls (entries : List RegisteredRouter) (probe : Request) :
    (routerCalls entries probe).map (·.entry) = entries := by
  induction entries generalizing probe with
  | nil => rfl
  | cons entry rest ih => rw [routerCalls, List.map_cons, ih]

namespace Pass

variable {α : Type}

/-- Finds the first answer as it is: the entry, its chain and the probe that it left. -/
def finding : Extractor (RegisteredRouter × Chain × Request) :=
  reading fun entry chain probe => .ok (entry, chain, probe)

/-- Looks at what a pass has found. -/
def lookedAt (pass : Pass (RegisteredRouter × Chain × Request)) (look : Look α) : Pass α :=
  { pass with
    outcome := do
      match ← pass.outcome with
      | some (entry, chain, probe) => some <$> look entry chain probe
      | none => return none }

end Pass

/-- The calls that are made, and their result. -/
inductive AskTrace {α : Type} (ignoring : Bool) (extract : Pass.Extractor α)
    (entries : List RegisteredRouter)
    (first : Request) : List RouterCall → Pass α → Prop
  /-- Nobody decides. -/
  | exhausted
      (undecided : ∀ call ∈ routerCalls entries first, call.PassesOver ignoring) :
      AskTrace ignoring extract entries first (routerCalls entries first)
        ⟨.ok none, leaveAll entries first, (routerCalls entries first).flatMap (·.notes ignoring)⟩
  /-- The first to decide answers with a chain, which goes to the extractor. -/
  | chain {place : Nat} {call : RouterCall} {chain : Chain}
      (there : (routerCalls entries first)[place]? = some call)
      (undecided : ∀ earlier ∈ (routerCalls entries first).take place, earlier.PassesOver ignoring)
      (answered : call.answer = .ok (some chain)) :
      AskTrace ignoring extract entries first ((routerCalls entries first).take (place + 1))
        ⟨(extract call.entry chain call.left).1.map some,
          (extract call.entry chain call.left).2,
          ((routerCalls entries first).take (place + 1)).flatMap (·.notes ignoring)⟩
  /-- The first to decide fails, and failures count. -/
  | failure {place : Nat} {call : RouterCall} {error : RoutingError} (counts : ignoring = false)
      (there : (routerCalls entries first)[place]? = some call)
      (undecided : ∀ earlier ∈ (routerCalls entries first).take place, earlier.PassesOver ignoring)
      (answered : call.answer = .error error) :
      AskTrace ignoring extract entries first ((routerCalls entries first).take (place + 1))
        ⟨.error error, call.left,
          ((routerCalls entries first).take (place + 1)).flatMap (·.notes ignoring)⟩

namespace AskTrace

variable {α : Type} {ignoring : Bool} {extract : Pass.Extractor α} {entry : RegisteredRouter}
  {entries rest : List RegisteredRouter} {probe first : Request} {calls : List RouterCall}
  {pass : Pass α}

/-- The routers that are asked are the first ones of the registry, each asked once. -/
theorem map_entry_prefix (asking : AskTrace ignoring extract entries first calls pass) :
    calls.map (·.entry) <+: entries := by
  suffices some : calls <+: routerCalls entries first by
    have listed := some.map (·.entry)
    rwa [map_entry_routerCalls] at listed
  cases asking with
  | exhausted => exact List.prefix_rfl
  | chain => exact List.take_prefix _ _
  | failure => exact List.take_prefix _ _

/-- An entry that is passed over comes in front of what the others do. -/
theorem cons (undecided : entry.PassesOver ignoring probe)
    (asking : AskTrace ignoring extract rest (entry.leave probe) calls pass) :
    AskTrace ignoring extract (entry :: rest) probe (⟨entry, probe⟩ :: calls)
      (pass.after (RouterCall.notes ignoring ⟨entry, probe⟩)) := by
  have extended {place : Nat}
      (later : ∀ earlier ∈ (routerCalls rest (entry.leave probe)).take place,
        earlier.PassesOver ignoring) :
      ∀ earlier ∈ (routerCalls (entry :: rest) probe).take (place + 1),
        earlier.PassesOver ignoring := by
    rw [routerCalls, List.take_succ_cons]
    exact List.forall_mem_cons.mpr ⟨undecided, later⟩
  cases asking with
  | exhausted others => exact .exhausted (List.forall_mem_cons.mpr ⟨undecided, others⟩)
  | @chain place call _ there others answered =>
    have further : (routerCalls (entry :: rest) probe)[place + 1]? = some call := there
    exact .chain further (extended others) answered
  | @failure place call _ counts there others answered =>
    have further : (routerCalls (entry :: rest) probe)[place + 1]? = some call := there
    exact .failure counts further (extended others) answered

theorem ignoring_of_ok {value : Option α} (asking : AskTrace false extract entries first calls pass)
    (found : pass.outcome = .ok value) : AskTrace true extract entries first calls pass := by
  have same {asked : List RouterCall}
      (answered : ∀ call ∈ asked, ∃ result, call.answer = .ok result) :
      asked.flatMap (·.notes false) = asked.flatMap (·.notes true) := by
    refine List.flatMap_congr fun call member => ?_
    obtain ⟨result, answered⟩ := answered call member
    rw [RouterCall.notes_of_ok answered, RouterCall.notes_of_ok answered]
  cases asking with
  | exhausted undecided =>
    rw [same fun call member => ⟨_, RegisteredRouter.answer_of_passesOver (undecided call member)⟩]
    exact .exhausted fun call member => RegisteredRouter.passesOver_true (undecided call member)
  | @chain place call chain there undecided answered =>
    have asked : (routerCalls entries first).take (place + 1) =
        (routerCalls entries first).take place ++ [call] := by
      rw [List.take_add_one, there, Option.toList_some]
    have others : ∀ other ∈ (routerCalls entries first).take (place + 1),
        ∃ result, other.answer = .ok result := by
      rw [asked]
      intro other member
      rcases List.mem_append.mp member with earlier | last
      · exact ⟨_, RegisteredRouter.answer_of_passesOver (undecided other earlier)⟩
      · obtain rfl := List.mem_singleton.mp last
        exact ⟨_, answered⟩
    rw [same others]
    exact .chain there
      (fun earlier member => RegisteredRouter.passesOver_true (undecided earlier member)) answered
  | failure => cases found

end AskTrace

/-- The probe that the first router is asked about: with the split path on it, if a router wants
that. -/
inductive StartsFrom (entries : List RegisteredRouter) (probe : Request) : Request → Prop
  | unsplit (unwanted : ∀ entry ∈ entries, entry.usesParsedPath = false) :
      StartsFrom entries probe probe
  | split {path : RequestPath} (wanted : ∃ entry ∈ entries, entry.usesParsedPath = true)
      (splits : probe.splitPath = .ok path) :
      StartsFrom entries probe (probe.setAttribute AttributeName.parsedPath (.requestPath path))

/-- The calls that a pass makes, and its result. -/
inductive PassTrace {α : Type} (ignoring : Bool) (extract : Pass.Extractor α)
    (entries : List RegisteredRouter)
    (probe : Request) : List RouterCall → Pass α → Prop
  /-- A router wants a split path, and the path cannot be split: nobody is asked. -/
  | malformed {reason : String} (wanted : ∃ entry ∈ entries, entry.usesParsedPath = true)
      (unsplittable : probe.splitPath = .error (.invalidPath probe.path reason)) :
      PassTrace ignoring extract entries probe []
        ⟨.error (.invalidPath probe.path reason), probe, []⟩
  /-- The routers are asked, and what was in the place of the split path is put back. -/
  | asked {first : Request} {calls : List RouterCall} {pass : Pass α}
      (begins : StartsFrom entries probe first)
      (asking : AskTrace ignoring extract entries first calls pass) :
      PassTrace ignoring extract entries probe calls
        (pass.restoreParsedPath (probe.attribute? AttributeName.parsedPath))

/-- The only fault of a path is that it cannot be split into context path and rest. -/
theorem Request.splitPath_error {request : Request} {error : RoutingError}
    (fails : request.splitPath = .error error) :
    ∃ reason, error = .invalidPath request.path reason := by
  unfold splitPath RequestPath.parse at fails
  cases parsed : RequestPath.parse? request.path request.contextPath with
  | ok path =>
    rw [parsed] at fails
    cases fails
  | error fault =>
    rw [parsed] at fails
    exact ⟨fault.reason, (Except.error.inj fails).symm⟩

namespace Pass

variable {α : Type} {ignoring : Bool} {extract : Extractor α}
  {entries : List RegisteredRouter} {probe : Request}

/-- Splitting fails for a path that a router wants split and that cannot be; otherwise there is a
first probe. -/
theorem splitFor_cases (entries : List RegisteredRouter) (probe : Request) :
    (∃ reason, (∃ entry ∈ entries, entry.usesParsedPath = true) ∧
      probe.splitPath = .error (.invalidPath probe.path reason) ∧
        splitFor entries probe = .error (.invalidPath probe.path reason)) ∨
      ∃ first, StartsFrom entries probe first ∧ splitFor entries probe = .ok first := by
  unfold splitFor
  split
  next wanted =>
    rw [List.any_eq_true] at wanted
    cases splits : probe.splitPath with
    | error error =>
      obtain ⟨reason, rfl⟩ := Request.splitPath_error splits
      exact .inl ⟨reason, wanted, rfl, by rw [Request.cacheParsedPath, splits]; rfl⟩
    | ok path => exact .inr ⟨_, .split wanted splits, by rw [Request.cacheParsedPath, splits]; rfl⟩
  next unwanted =>
    simp only [List.any_eq_true, not_exists, not_and, Bool.not_eq_true] at unwanted
    exact .inr ⟨probe, .unsplit unwanted, rfl⟩

theorem run_of_splitFor_error {error : RoutingError}
    (fails : splitFor entries probe = .error error) :
    run ⟨some entries⟩ ignoring extract probe = ⟨.error error, probe, []⟩ := by
  simp only [run, RouterRegistry.require, fails, restoreParsedPath,
    Request.restoreAttribute_attribute?]

theorem run_of_splitFor {first : Request} (begins : splitFor entries probe = .ok first) :
    run ⟨some entries⟩ ignoring extract probe =
      (ask ignoring extract entries first).restoreParsedPath
        (probe.attribute? AttributeName.parsedPath) := by
  simp only [run, RouterRegistry.require, begins]

section Step

variable {entry : RegisteredRouter} {rest : List RegisteredRouter}

theorem ask_cons_of_passesOver (undecided : entry.PassesOver ignoring probe) :
    ask ignoring extract (entry :: rest) probe =
      (ask ignoring extract rest (entry.leave probe)).after
        (RouterCall.notes ignoring ⟨entry, probe⟩) := by
  rcases undecided with nothing | ⟨rfl, error, failed⟩
  · rw [RouterCall.notes_of_ok nothing]
    rw [RegisteredRouter.answer] at nothing
    simp only [ask, nothing]
    rfl
  · simp only [RouterCall.notes, RouterCall.answer, failed]
    rw [RegisteredRouter.answer] at failed
    simp only [ask, failed, if_true]
    rfl

theorem ask_cons_of_chain {chain : Chain} (answered : entry.answer probe = .ok (some chain)) :
    ask ignoring extract (entry :: rest) probe =
      ⟨(extract entry chain (entry.leave probe)).1.map some,
        (extract entry chain (entry.leave probe)).2,
        RouterCall.notes ignoring ⟨entry, probe⟩⟩ := by
  rw [RouterCall.notes_of_ok answered]
  rw [RegisteredRouter.answer] at answered
  simp only [ask, answered]
  rfl

theorem ask_cons_of_failure {error : RoutingError} (failed : entry.answer probe = .error error) :
    ask false extract (entry :: rest) probe =
      ⟨.error error, entry.leave probe, RouterCall.notes false ⟨entry, probe⟩⟩ := by
  rw [RegisteredRouter.answer] at failed
  simp only [ask, failed, RouterCall.notes, List.append_nil]
  rfl

end Step

theorem ask_ignoring_of_ok {value : Option α}
    (found : (ask false extract entries probe).outcome = .ok value) :
    ask true extract entries probe = ask false extract entries probe := by
  induction entries generalizing probe with
  | nil => rfl
  | cons entry rest ih =>
    have notes {result : Option Chain} (answered : entry.answer probe = .ok result) :
        RouterCall.notes true ⟨entry, probe⟩ = RouterCall.notes false ⟨entry, probe⟩ := by
      rw [RouterCall.notes_of_ok answered, RouterCall.notes_of_ok answered]
    rcases entry.passesOver_or_decides false probe with
      undecided | ⟨chain, answered⟩ | ⟨_, error, failed⟩
    · have nothing := RegisteredRouter.answer_of_passesOver undecided
      rw [ask_cons_of_passesOver undecided] at found
      rw [ask_cons_of_passesOver undecided, ask_cons_of_passesOver (.inl nothing), notes nothing,
        ih found]
    · rw [ask_cons_of_chain answered, ask_cons_of_chain answered, notes answered]
    · rw [ask_cons_of_failure failed] at found
      cases found

theorem run_ignoring_of_ok {registry : RouterRegistry} {value : Option α}
    (found : (run registry false extract probe).outcome = .ok value) :
    run registry true extract probe = run registry false extract probe := by
  obtain ⟨_ | entries⟩ := registry
  · rfl
  · cases begins : splitFor entries probe with
    | error error => rw [run_of_splitFor_error begins, run_of_splitFor_error begins]
    | ok first =>
      rw [run_of_splitFor begins] at found
      rw [run_of_splitFor begins, run_of_splitFor begins, ask_ignoring_of_ok found]

/-- Asking routers has a trace. -/
theorem exists_askTrace (ignoring : Bool) (extract : Extractor α) (entries : List RegisteredRouter)
    (probe : Request) :
    ∃ calls, AskTrace ignoring extract entries probe calls
      (ask ignoring extract entries probe) := by
  induction entries generalizing probe with
  | nil => exact ⟨_, .exhausted (by simp [routerCalls])⟩
  | cons entry rest ih =>
    have first : (routerCalls (entry :: rest) probe)[0]? = some ⟨entry, probe⟩ := rfl
    have others : ∀ earlier ∈ (routerCalls (entry :: rest) probe).take 0,
        earlier.PassesOver ignoring := by simp
    have notes : ((routerCalls (entry :: rest) probe).take (0 + 1)).flatMap (·.notes ignoring) =
        RouterCall.notes ignoring ⟨entry, probe⟩ := List.append_nil _
    rcases entry.passesOver_or_decides ignoring probe with
      undecided | ⟨chain, answered⟩ | ⟨rfl, error, failed⟩
    · obtain ⟨calls, asking⟩ := ih (entry.leave probe)
      rw [ask_cons_of_passesOver undecided]
      exact ⟨_, asking.cons undecided⟩
    · have asking : AskTrace ignoring extract _ _ _ _ := .chain first others answered
      rw [notes] at asking
      rw [ask_cons_of_chain answered]
      exact ⟨_, asking⟩
    · have asking : AskTrace false extract _ _ _ _ := .failure rfl first others failed
      rw [notes] at asking
      rw [ask_cons_of_failure failed]
      exact ⟨_, asking⟩

/-- Looking at the first answer changes nothing about how it is found. -/
theorem ask_reading (ignoring : Bool) (look : Look α) (entries : List RegisteredRouter)
    (probe : Request) :
    ask ignoring (reading look) entries probe = (ask ignoring finding entries probe).lookedAt look := by
  induction entries generalizing probe with
  | nil => rfl
  | cons entry rest ih =>
    rcases entry.passesOver_or_decides ignoring probe with
      undecided | ⟨chain, answered⟩ | ⟨rfl, error, failed⟩
    · rw [ask_cons_of_passesOver undecided, ask_cons_of_passesOver undecided, ih]
      rfl
    · rw [ask_cons_of_chain answered, ask_cons_of_chain answered]
      rfl
    · rw [ask_cons_of_failure failed, ask_cons_of_failure failed]
      rfl

/-- A pass for one who only looks is the pass for the first answer, looked at afterwards. -/
theorem run_reading (ignoring : Bool) (look : Look α) (entries : List RegisteredRouter)
    (probe : Request) :
    run ⟨some entries⟩ ignoring (reading look) probe =
      (run ⟨some entries⟩ ignoring finding probe).lookedAt look := by
  cases begins : splitFor entries probe with
  | error error =>
    rw [run_of_splitFor_error begins, run_of_splitFor_error begins]
    rfl
  | ok first =>
    rw [run_of_splitFor begins, run_of_splitFor begins, ask_reading]
    rfl

/-- Every pass has a trace. -/
theorem exists_passTrace (ignoring : Bool) (extract : Extractor α) (entries : List RegisteredRouter)
    (probe : Request) :
    ∃ calls, PassTrace ignoring extract entries probe calls
      (run ⟨some entries⟩ ignoring extract probe) := by
  rcases splitFor_cases entries probe with
    ⟨reason, wanted, unsplittable, fails⟩ | ⟨first, starts, begins⟩
  · rw [run_of_splitFor_error fails]
    exact ⟨[], .malformed wanted unsplittable⟩
  · obtain ⟨calls, asking⟩ := exists_askTrace ignoring extract entries first
    rw [run_of_splitFor begins]
    exact ⟨calls, .asked starts asking⟩

end Pass

namespace PassTrace

variable {α : Type} {ignoring : Bool} {extract : Pass.Extractor α} {entries : List RegisteredRouter}
  {probe : Request} {calls : List RouterCall} {pass : Pass α}

/-- The routers that are asked are the first ones of the registry, each asked once. -/
theorem map_entry_prefix (trace : PassTrace ignoring extract entries probe calls pass) :
    calls.map (·.entry) <+: entries := by
  cases trace with
  | malformed => exact List.nil_prefix
  | asked _ asking => exact asking.map_entry_prefix

/-- What was in the place of the split path is there again. -/
theorem attribute?_parsedPath (trace : PassTrace ignoring extract entries probe calls pass) :
    pass.probe.attribute? AttributeName.parsedPath = probe.attribute? AttributeName.parsedPath := by
  cases trace with
  | malformed => rfl
  | asked => exact Request.attribute?_restoreAttribute_self _ _ _

theorem ignoring_of_ok {value : Option α} (trace : PassTrace false extract entries probe calls pass)
    (found : pass.outcome = .ok value) : PassTrace true extract entries probe calls pass := by
  cases trace with
  | malformed => cases found
  | asked begins asking => exact .asked begins (asking.ignoring_of_ok found)

end PassTrace

/-- Every pass through known entries goes in one of two ways: either a router wants the path split,
it cannot be, and that is the error of the pass, without anyone being asked; or the routers are
asked in order, each once and about the probe that the one before it has left, up to the first that
answers with a chain or, if failures count, fails. In either case what was in the place of the split
path is there again, whatever the extractor did to the probe. A pass without an error goes the same
way if failures are ignored, and one that only looks at the first answer finds it in the same way
whatever is looked for. -/
theorem Pass.run_passTrace {α : Type} (entries : List RegisteredRouter) (extract : Pass.Extractor α)
    (probe : Request) :
    (∀ ignoring,
      let pass := run ⟨some entries⟩ ignoring extract probe
      pass.probe.attribute? AttributeName.parsedPath = probe.attribute? AttributeName.parsedPath ∧
        ∃ calls, calls.map (·.entry) <+: entries ∧ PassTrace ignoring extract entries probe calls pass) ∧
    (∀ value calls,
      let pass := run ⟨some entries⟩ false extract probe
      pass.outcome = .ok value → PassTrace false extract entries probe calls pass →
        run ⟨some entries⟩ true extract probe = pass ∧
          PassTrace true extract entries probe calls pass) ∧
    ∀ ignoring (look : Look α),
      run ⟨some entries⟩ ignoring (reading look) probe =
        (run ⟨some entries⟩ ignoring finding probe).lookedAt look := by
  refine ⟨fun ignoring => ?_, fun value calls found trace => ?_, fun ignoring look => ?_⟩
  · obtain ⟨calls, trace⟩ := exists_passTrace ignoring extract entries probe
    exact ⟨trace.attribute?_parsedPath, calls, trace.map_entry_prefix, trace⟩
  · exact ⟨run_ignoring_of_ok found, trace.ignoring_of_ok found⟩
  · exact run_reading ignoring look entries probe

section

private abbrev manualCache : PatternCache :=
  ⟨(PatternRouter.below "manual" (.parsed {})).toRouter, {}, 16, 0⟩

/-- A registry on which the second router wants the path split. -/
private abbrev manualEntries : List RegisteredRouter :=
  [⟨(PatternRouter.below "api" .resolved).toRouter, none⟩, ⟨manualCache.router, some manualCache⟩]

/-- A probe for the second router, with something else where the split path belongs. -/
private abbrev manualProbe : Request :=
  Request.setAttribute { uri := ⟨none, none, "/manual/a", none⟩ } AttributeName.parsedPath (.foreign 1)

/-- Binds the router that answers, and takes away what it was bound by. -/
private abbrev bindAndTake : Pass.Extractor BoundRouter := fun entry _ probe =>
  (entry.bind probe, probe.removeAttribute AttributeName.parsedPath)

/-- The second router answers to the split path, the extractor takes it away, and what was there
before is put back; ignoring failures makes no difference. -/
theorem Pass.run_passTrace_manual :
    ∃ calls,
      let pass := run ⟨some manualEntries⟩ false bindAndTake manualProbe
      pass.outcome = .ok (some (.parsed manualCache ⟨"", "/manual/a"⟩)) ∧
        pass.probe.attribute? AttributeName.parsedPath = some (.foreign 1) ∧
        PassTrace false bindAndTake manualEntries manualProbe calls pass ∧
        run ⟨some manualEntries⟩ true bindAndTake manualProbe = pass ∧
        PassTrace true bindAndTake manualEntries manualProbe calls pass := by
  have found : (run ⟨some manualEntries⟩ false bindAndTake manualProbe).outcome =
      .ok (some (.parsed manualCache ⟨"", "/manual/a"⟩)) := by rfl
  obtain ⟨kept, calls, _, trace⟩ :=
    (run_passTrace manualEntries bindAndTake manualProbe).1 false
  exact ⟨calls, found, kept, trace,
    (run_passTrace manualEntries bindAndTake manualProbe).2.1 _ calls found trace⟩

end

end RouteProbe
