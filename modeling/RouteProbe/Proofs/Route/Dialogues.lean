import RouteProbe.Proofs.Request.SeenRequests

/-! # Dialogues with a request

A router that keeps to what others may do with a request asks for its head and accesses its
attributes, one thing after another, each as it likes after what it has learnt before. All kinds of
routers here are of that sort. Main statement: such a router cannot tell a request from one isolated
from it without the suppression of logging, and none of its accesses reaches the request behind.
-/

namespace RouteProbe

variable {α β : Type}

/-- What is done with a request as it is seen, and the answer in the end. -/
inductive Dialogue (α : Type)
  | answer (result : α)
  | look (next : RequestHead → Dialogue α)
  | access (what : AttributeAccess) (next : AttributeReply → Dialogue α)

namespace Dialogue

/-- Holds a dialogue with a request as it is seen. -/
def run : Dialogue α → SeenRequest → α × SeenRequest
  | answer result, seen => (result, seen)
  | look next, seen => (next seen.head).run seen
  | access what next, seen =>
    let (reply, seen) := what.onSeen seen
    (next reply).run seen

/-- Holds a dialogue with a head and plain attributes. -/
def runPlain (head : RequestHead) : Dialogue α → Attributes → α × Attributes
  | answer result, attributes => (result, attributes)
  | look next, attributes => (next head).runPlain head attributes
  | access what next, attributes =>
    let (reply, attributes) := what.onAttributes attributes
    (next reply).runPlain head attributes

/-- Goes on after the answer of a dialogue. -/
def bind : Dialogue α → (α → Dialogue β) → Dialogue β
  | answer result, next => next result
  | look ask, next => .look fun head => (ask head).bind next
  | access what ask, next => .access what fun reply => (ask reply).bind next

/-- Makes accesses whose replies are of no interest, and goes on. -/
def afterAll (accesses : List AttributeAccess) (next : Dialogue α) : Dialogue α :=
  accesses.foldr (fun access rest => .access access fun _ => rest) next

theorem run_eq (dialogue : Dialogue α) (seen : SeenRequest) :
    dialogue.run seen =
      ((dialogue.runPlain seen.head seen.attributes).1,
        seen.withAttributes (dialogue.runPlain seen.head seen.attributes).2) := by
  induction dialogue generalizing seen with
  | answer result => simp only [run, runPlain, SeenRequest.withAttributes_attributes]
  | look next ih => exact ih seen.head seen
  | access what next ih =>
    simp only [run, runPlain, AttributeAccess.onSeen_eq, ih, SeenRequest.head_withAttributes,
      SeenRequest.attributes_withAttributes, SeenRequest.withAttributes_withAttributes]

theorem run_bind (dialogue : Dialogue α) (next : α → Dialogue β) (seen : SeenRequest) :
    (dialogue.bind next).run seen = (next (dialogue.run seen).1).run (dialogue.run seen).2 := by
  induction dialogue generalizing seen with
  | answer result => rfl
  | look ask ih => exact ih seen.head seen
  | access what ask ih => exact ih (what.onSeen seen).1 (what.onSeen seen).2

theorem run_afterAll (accesses : List AttributeAccess) (next : Dialogue α) (seen : SeenRequest) :
    (afterAll accesses next).run seen =
      next.run (AttributeAccess.performAll AttributeAccess.onSeen accesses seen).2 := by
  induction accesses generalizing seen with
  | nil => rfl
  | cons access rest ih => exact ih (access.onSeen seen).2

end Dialogue

/-- How a router that keeps to dialogues comes to its answer, and to its entries in the journal. -/
abbrev RouterDialogue := Dialogue (Except RoutingError (Option Chain) × Journal)

/-- What comes of such a dialogue. -/
def RouterDialogue.resolve (dialogue : RouterDialogue) (seen : SeenRequest) : Resolution :=
  let ((outcome, journal), left) := dialogue.run seen
  ⟨outcome, left.attributes, journal⟩

/-- Nothing but the head and the attributes that are seen makes a difference. -/
theorem RouterDialogue.resolve_congr (dialogue : RouterDialogue) {first second : SeenRequest}
    (head : first.head = second.head) (attributes : first.attributes = second.attributes) :
    dialogue.resolve first = dialogue.resolve second := by
  simp only [resolve, Dialogue.run_eq, SeenRequest.attributes_withAttributes, head, attributes]

/-- The router resolves requests by a dialogue with each of them. -/
def Router.Follows (router : Router) (dialogue : RouterDialogue) : Prop :=
  ∀ request, router.resolve request = dialogue.resolve (.plain request)

/-- Whether a reply is the suppression of logging. -/
def AttributeReply.isSuppression : AttributeReply → Bool
  | found (some (.flag suppressed)) => suppressed
  | _ => false

theorem AttributeReply.isSuppression_found (request : Request) :
    (found (request.attribute? AttributeName.suppressLogging)).isSuppression =
      request.suppressesLogging := by
  rw [Request.suppressesLogging]
  cases request.attribute? AttributeName.suppressLogging with
  | none => rfl
  | some value => cases value <;> rfl

namespace PatternRouter

/-- How a pattern router finds the path to match, in the form that it wants. -/
def pathDialogue (router : PatternRouter) : Dialogue (Except RoutingError String) :=
  match router.mode with
  | .parsed _ => .access (.read AttributeName.parsedPath) fun
    | .found (some (.requestPath path)) => .answer (.ok path.within)
    | _ => .answer (.error (.missingAttribute "parsed request path" AttributeName.parsedPath))
  | .resolved => .look fun head =>
    match RequestPath.parse head.uri.path head.contextPath with
    | .error error => .answer (.error error)
    | .ok path =>
      let lookup := normalizeLookupPath path.within
      .access (.write AttributeName.lookupPath (.text lookup)) fun _ => .answer (.ok lookup)

/-- How a pattern router answers by a path: with the first route that matches, and with a notice
unless it is asked to suppress logging. -/
def answerDialogue (router : PatternRouter) (path : String) : RouterDialogue :=
  .access (.read AttributeName.suppressLogging) fun reply =>
    match router.route? path with
    | none =>
      .answer (.ok none,
        if reply.isSuppression then [] else [.notice (.noRouteMatched router.name path)])
    | some route =>
      .answer (.ok (some (route.chain router.interceptors)),
        if reply.isSuppression then []
        else [.notice (.mappedRequest router.name path route.pattern.source route.handler.name)])

def dialogue (router : PatternRouter) : RouterDialogue :=
  router.pathDialogue.bind fun
    | .error error => .answer (.error error, [])
    | .ok path => router.answerDialogue path

/-- The dialogue finds what the router finds, and leaves what it leaves. -/
theorem run_pathDialogue (router : PatternRouter) (request : Request) :
    router.pathDialogue.run (.plain request) =
      match router.findPath request with
      | .error error => (.error error, .plain request)
      | .ok (path, after) => (.ok path, .plain after) := by
  cases mode : router.mode with
  | parsed options =>
    have reads : router.pathDialogue.run (.plain request) =
        (request.requireParsedPath.map RequestPath.within, .plain request) := by
      simp only [pathDialogue, mode, Dialogue.run, AttributeAccess.onSeen, SeenRequest.attribute?,
        Request.requireParsedPath, Request.parsedPath?]
      cases request.attribute? AttributeName.parsedPath with
      | none => rfl
      | some value => cases value <;> rfl
    rw [reads]
    simp only [findPath, mode]
    cases request.requireParsedPath <;> rfl
  | resolved =>
    simp only [pathDialogue, mode, findPath, Dialogue.run, Request.cacheLookupPath,
      Request.findLookupPath, Request.splitPath, SeenRequest.head, Request.head, Request.path]
    cases RequestPath.parse request.uri.path request.contextPath <;> rfl

/-- Pattern routers keep to a dialogue. -/
theorem follows_dialogue (router : PatternRouter) : router.toRouter.Follows router.dialogue := by
  intro request
  change router.resolve request = _
  rw [RouterDialogue.resolve, dialogue, Dialogue.run_bind, run_pathDialogue, resolve]
  cases router.findPath request with
  | error error => rfl
  | ok found =>
    simp only [answerDialogue, Dialogue.run, AttributeAccess.onSeen, SeenRequest.attribute?,
      AttributeReply.isSuppression_found]
    cases router.route? found.1 <;> rfl

end PatternRouter

namespace Router

/-- A router that answers every request with one chain keeps to a dialogue without questions. -/
theorem follows_always (name : String) (order : Int) (chain : Chain) :
    (always name order chain).Follows (.answer (.ok (some chain), [])) :=
  fun _ => rfl

variable {router : Router} {dialogue : RouterDialogue}

/-- Counting its calls makes a router ask no more. -/
theorem Follows.counted (follows : router.Follows dialogue) :
    router.counted.Follows
      (dialogue.bind fun (outcome, journal) => .answer (outcome, .call router.name :: journal)) := by
  intro request
  change (let resolution := router.resolve request
    { resolution with journal := .call router.name :: resolution.journal : Resolution }) = _
  rw [follows request, RouterDialogue.resolve, RouterDialogue.resolve, Dialogue.run_bind]
  rfl

/-- A router that fails on one path looks at the path first. -/
theorem Follows.failingOn (follows : router.Follows dialogue) (path : String) :
    (router.failingOn path).Follows (.look fun head =>
      if head.uri.path = path then
        .answer (.error (.resolution router.name s!"backend unavailable for '{path}'" none), [])
      else dialogue) := by
  intro request
  change (if request.path = path then _ else router.resolve request) =
    RouterDialogue.resolve (if request.path = path then _ else dialogue) (.plain request)
  by_cases same : request.path = path
  · rw [if_pos same, if_pos same]
    rfl
  · rw [if_neg same, if_neg same]
    exact follows request

end Router

/-- The accesses of a script, one after another. -/
def RouterScript.accesses (script : RouterScript) : List AttributeAccess :=
  script.sets.map (fun entry => .write entry.1 entry.2) ++ script.removals.map .remove

/-- Scripted routers keep to a dialogue. -/
theorem RouterScript.follows_afterAll (script : RouterScript) (name : String) (order : Int) :
    (script.toRouter name order).Follows (.afterAll script.accesses (.answer (script.answer, []))) := by
  intro request
  rw [RouterDialogue.resolve, Dialogue.run_afterAll, AttributeAccess.performAll_onSeen]
  simp only [Dialogue.run, SeenRequest.attributes_withAttributes, RouterScript.accesses,
    AttributeAccess.performAll_snd, List.foldl_append, List.foldl_map]
  rfl

/-- Isolating what is seen is the same as isolating a request that shows as much. Whatever accesses
are made afterwards, each of them gets the reply that it gets from plain attributes, which start
with those that were seen and perhaps with the suppression of logging. The head stays the one that
was seen, and what was seen stays behind as it was. Without the suppression of logging, a router
that keeps to a dialogue comes to the answer, and leaves the attributes, that it does on any request
with the same head and the same attributes. -/
theorem SeenRequest.isolate_simulates (seen : SeenRequest) (suppressed : Bool) :
    (∀ accesses : List AttributeAccess,
      let start := if suppressed then seen.attributes.insert AttributeName.suppressLogging (.flag true)
        else seen.attributes
      let plain := AttributeAccess.performAll AttributeAccess.onAttributes accesses start
      let view := AttributeAccess.performAll AttributeAccess.onSeen accesses (seen.isolate suppressed)
      let isolated := (IsolatedRequest.of seen.toRequest suppressed).toRequest
      view.1 = plain.1 ∧ view.2.attributes = plain.2 ∧ view.2.head = seen.head ∧
        view.2.base? = some seen ∧
        AttributeAccess.performAll AttributeAccess.onSeen accesses (.plain isolated) =
          (view.1, .plain view.2.toRequest)) ∧
    ∀ (router : Router) (dialogue : RouterDialogue) (copy : Request), router.Follows dialogue →
      copy.head = seen.head → copy.attributes = seen.attributes →
        dialogue.resolve (seen.isolate false) = router.resolve copy ∧
          (dialogue.run (seen.isolate false)).2.base? = some seen := by
  constructor
  · intro accesses
    simp only [AttributeAccess.performAll_onSeen, SeenRequest.isolate_eq]
    refine ⟨rfl, rfl, rfl, rfl, ?_⟩
    rw [← SeenRequest.toRequest_isolate, SeenRequest.isolate_eq]
    rfl
  · intro router dialogue copy follows head attributes
    constructor
    · rw [follows copy]
      refine dialogue.resolve_congr ?_ ?_
      · rw [SeenRequest.isolate_eq]
        exact head.symm
      · rw [SeenRequest.isolate_eq]
        exact attributes.symm
    · rw [Dialogue.run_eq, SeenRequest.isolate_eq]
      rfl

section

private abbrev atlasRouter : PatternRouter := .below "atlas" .resolved

private abbrev atlasDialogue : RouterDialogue :=
  atlasRouter.dialogue.bind fun (outcome, journal) => .answer (outcome, .call "atlas" :: journal)

private abbrev atlasSeen : SeenRequest :=
  ((SeenRequest.plain { uri := ⟨none, none, "/atlas//a;v=1", none⟩ }).isolate true).setAttribute
    AttributeName.lookupPath (.text "/elsewhere")

private abbrev atlasCopy : Request where
  uri := ⟨none, none, "/atlas//a;v=1", none⟩
  attributes := atlasSeen.attributes

/-- A router that finds its lookup path itself and counts its calls is asked about a request
isolated twice. It answers as on a copy, without logging, and the lookup path that it leaves is not
seen behind. -/
theorem SeenRequest.isolate_simulates_atlas :
    atlasRouter.toRouter.counted.Follows atlasDialogue ∧ atlasCopy.head = atlasSeen.head ∧
      atlasCopy.attributes = atlasSeen.attributes ∧
      (let resolution := atlasDialogue.resolve (atlasSeen.isolate false)
       resolution = atlasRouter.toRouter.counted.resolve atlasCopy ∧
        resolution.journal = [.call "atlas"] ∧
        resolution.attributes.get? AttributeName.lookupPath = some (.text "/atlas/a")) ∧
      (atlasDialogue.run (atlasSeen.isolate false)).2.base? = some atlasSeen ∧
      atlasSeen.attribute? AttributeName.lookupPath = some (.text "/elsewhere") := by
  have follows : atlasRouter.toRouter.counted.Follows atlasDialogue :=
    atlasRouter.follows_dialogue.counted
  obtain ⟨resolution, behind⟩ :=
    (atlasSeen.isolate_simulates false).2 atlasRouter.toRouter.counted atlasDialogue atlasCopy
      follows rfl rfl
  exact ⟨follows, rfl, rfl, ⟨resolution, by rfl, by rfl⟩, behind, by rfl⟩

end

end RouteProbe
