import RouteProbe.Proofs.Path.ContextPaths
import RouteProbe.Proofs.Path.NormalForms
import RouteProbe.Proofs.Route.PatternRouters
import RouteProbe.Proofs.Route.Plans

/-! # Routers for split paths and routers for normal forms

A router for split paths and a router for normal forms that have the same routes answer alike, as
long as the path is an ordinary one: they find different texts to match, but no pattern tells the
two texts apart (`PathPattern.match?_normalizeLookupPath`).
-/

namespace RouteProbe

namespace PathPattern

/-- A pattern sees nothing of a path but its segments and the slashes at its two ends. -/
theorem match?_congr (pattern : PathPattern) {first second : String}
    (segments : Text.segments first = Text.segments second)
    (opens : Text.opensWith '/' first = Text.opensWith '/' second)
    (closes : Text.closesWith '/' (Text.dropOpening '/' first) =
      Text.closesWith '/' (Text.dropOpening '/' second)) :
    pattern.match? first = pattern.match? second := by
  have fits : pattern.fitsEnds first = pattern.fitsEnds second := by
    simp only [fitsEnds, opens, closes]
  rw [match?_eq_firstSharing?, match?_eq_firstSharing?, segments, fits]

/-- No pattern tells an ordinary path from its normal form. -/
theorem match?_normalizeLookupPath (pattern : PathPattern) {path : String} {rest : List Char}
    (ordinary : IsOrdinary path) (opens : path.toList = '/' :: rest) :
    pattern.match? (normalizeLookupPath path) = pattern.match? path := by
  obtain ⟨rest', normal⟩ := exists_toList_normalizeLookupPath path
  refine pattern.match?_congr ordinary.segments_normalizeLookupPath ?_
    (ordinary.closesWith_normalizeLookupPath opens)
  simp only [Text.opensWith, opens, normal, List.head?_cons]

end PathPattern

theorem IsOrdinary.opens {request : Request} {path : RequestPath} (ordinary : IsOrdinary path.within)
    (splits : request.splitPath = .ok path) : ∃ rest, path.within.toList = '/' :: rest := by
  rcases RequestPath.within_of_parse splits with empty | opens
  · rcases ordinary.single_or_filled with single | ⟨c, inside, _⟩
    · rw [empty] at single
      contradiction
    · rw [empty] at inside
      contradiction
  · exact opens

/-- The request as a router leaves it. -/
def PatternRouter.leave (router : PatternRouter) (request : Request) : Request :=
  (router.resolve request).applyTo request

/-- Asking two routers about one request, any number of times and in any order; whether the second
one has been asked is remembered. -/
inductive AskedInTurn (split normal : PatternRouter) (first : Request) : Bool → Request → Prop
  | start : AskedInTurn split normal first false first
  | split {asked : Bool} {now : Request} (before : AskedInTurn split normal first asked now) :
      AskedInTurn split normal first asked (split.leave now)
  | normal {asked : Bool} {now : Request} (before : AskedInTurn split normal first asked now) :
      AskedInTurn split normal first true (normal.leave now)

/-- Verdicts on a pattern that differ at most in the form of the path that has been matched. -/
inductive SameVerdict (pattern : String) :
    Except RoutingError (Option PathMatch) → Except RoutingError (Option PathMatch) → Prop
  | refused (reason : String) :
      SameVerdict pattern (.error (.invalidPattern pattern reason))
        (.error (.invalidPattern pattern reason))
  | missed : SameVerdict pattern (.ok none) (.ok none)
  | matched (split normal : String) (bindings : Bindings) :
      SameVerdict pattern (.ok (some ⟨pattern, split, bindings⟩))
        (.ok (some ⟨pattern, normal, bindings⟩))

namespace PatternRouter

variable {split normal : PatternRouter} {first now : Request} {path : RequestPath} {asked : Bool}

/-- Where both paths are at hand, every router finds the one it wants. -/
theorem exists_findPath (router : PatternRouter) (ready : now.IsReady true path) :
    ∃ after, router.findPath now = .ok ((router.lookupOf path).text, after) := by
  have wants : router.mode ≠ .resolved → true = true := fun _ => rfl
  obtain ⟨after, found, _⟩ := ready.findPath wants
  exact ⟨after, found⟩

/-- Asking a router for split paths changes nothing. -/
theorem leave_split (mode : split.mode = .parsed {}) (ready : now.IsReady true path) :
    split.leave now = now := by
  obtain ⟨after, found⟩ := exists_findPath split ready
  rw [leave, applyTo_of_findPath found]
  obtain ⟨_, _, _, same⟩ := (findPath_parsed_iff mode).mp found
  exact same.symm

/-- A router for normal forms leaves the normal form, and nothing else. -/
theorem leave_normal (mode : normal.mode = .resolved) (ready : now.IsReady true path) :
    normal.leave now =
      now.setAttribute AttributeName.lookupPath (.text (normalizeLookupPath path.within)) := by
  obtain ⟨after, found⟩ := exists_findPath normal ready
  rw [leave, applyTo_of_findPath found]
  obtain ⟨_, _, _, same⟩ := (findPath_resolved_iff mode).mp found
  rw [lookupOf, mode] at same
  exact same.symm

/-- Both paths stay at hand, however often the routers are asked. -/
theorem askedInTurn_ready (splitMode : split.mode = .parsed {}) (normalMode : normal.mode = .resolved)
    (ready : first.IsReady true path) (asking : AskedInTurn split normal first asked now) :
    now.IsReady true path ∧
      (asked = true → now.lookupPath? = some (normalizeLookupPath path.within)) := by
  induction asking with
  | start => exact ⟨ready, fun impossible => absurd impossible Bool.false_ne_true⟩
  | @split asked now _ ih =>
    rw [leave_split splitMode ih.1]
    exact ih
  | @normal asked now _ ih =>
    rw [leave_normal normalMode ih.1]
    refine ⟨⟨ih.1.split, fun wanted => ?_⟩, fun _ => now.lookupPath?_setAttribute_lookupPath _⟩
    rw [Request.parsedPath?_setAttribute_lookupPath]
    exact ih.1.parsed wanted

theorem outcome_of_isReady (router : PatternRouter) (ready : now.IsReady true path) :
    (router.resolve now).outcome =
      .ok ((router.route? (router.lookupOf path).text).map (Route.chain router.interceptors)) := by
  obtain ⟨after, found⟩ := exists_findPath router ready
  exact (resolve_of_findPath found).1

theorem matchPattern_of_requirePath {router : PatternRouter} {text : String}
    (found : router.requirePath now = .ok text) (pattern : String) :
    router.matchPattern now pattern =
      (PathPattern.matchPath? · text) <$> PathPattern.parse router.mode.options pattern := by
  rw [matchPattern, found, ok_bind]
  rfl

theorem sameVerdict_of_match? {options : PatternOptions} {whole normalForm : String}
    (alike : ∀ pattern : PathPattern, pattern.match? normalForm = pattern.match? whole)
    (pattern : String) :
    SameVerdict pattern ((PathPattern.matchPath? · whole) <$> PathPattern.parse options pattern)
      ((PathPattern.matchPath? · normalForm) <$> PathPattern.parse options pattern) := by
  cases read : PathPattern.parse options pattern with
  | error error =>
    obtain ⟨fault, _, rfl⟩ := PathPattern.parse_eq_error_iff.mp read
    exact .refused fault.reason
  | ok parsed =>
    obtain ⟨elements, _, rfl⟩ := PathPattern.parse_eq_ok_iff.mp read
    change SameVerdict pattern (.ok (PathPattern.matchPath? _ _)) (.ok (PathPattern.matchPath? _ _))
    simp only [PathPattern.matchPath?, alike]
    cases PathPattern.match? _ whole with
    | none => exact .missed
    | some bindings => exact .matched whole normalForm bindings

/-- Of two routers that are built from the same routes and interceptors one matches split paths and
one normal forms. If the path within the application is ordinary, both answer a request whose path
has been split with the same chain or with nothing, whoever is asked first and however often. Once
the second one has been asked, they give the same verdict on every pattern, but for the form of the
path. Collapsing repeated slashes makes no difference to any pattern. -/
theorem answer_alike {routes : List RoutePlan} {interceptors : List Interceptor}
    {name otherName : String} {order otherOrder : Int}
    (splitBuilt : RouterPlan.build ⟨name, order, .parsed {}, routes, interceptors⟩ = .ok split)
    (normalBuilt :
      RouterPlan.build ⟨otherName, otherOrder, .resolved, routes, interceptors⟩ = .ok normal)
    {request : Request} (cached : request.cacheParsedPath = .ok (path, first))
    (ordinary : IsOrdinary path.within) :
    (∃ answer, ∀ asked now, AskedInTurn split normal first asked now →
      (split.resolve now).outcome = .ok answer ∧ (normal.resolve now).outcome = .ok answer) ∧
    (∀ asked now later, AskedInTurn split normal first asked now →
      AskedInTurn split normal first true later → ∀ pattern,
        SameVerdict pattern (split.matchPattern now pattern) (normal.matchPattern later pattern)) ∧
    ∀ pattern : PathPattern,
      pattern.match? (collapseSlashes path.within) = pattern.match? path.within := by
  obtain ⟨table, read, rfl⟩ := RouterPlan.build_eq_ok_iff.mp splitBuilt
  obtain ⟨otherTable, otherRead, rfl⟩ := RouterPlan.build_eq_ok_iff.mp normalBuilt
  obtain rfl : table = otherTable := Except.ok.inj (read.symm.trans otherRead)
  obtain ⟨found, splits, same⟩ := bind_eq_ok_iff.mp cached
  obtain ⟨rfl, rfl⟩ := Prod.mk.inj (pure_eq_ok_iff.mp same)
  obtain ⟨rest, opens⟩ := ordinary.opens splits
  have alike (pattern : PathPattern) := pattern.match?_normalizeLookupPath ordinary opens
  have ready : (request.setAttribute AttributeName.parsedPath (.requestPath found)).IsReady true
      found := ⟨splits, fun _ => request.parsedPath?_setAttribute_parsedPath found⟩
  refine ⟨⟨(route? ⟨name, order, .parsed {}, table, interceptors⟩ found.within).map
    (Route.chain interceptors), fun asked now asking => ?_⟩, ?_, ?_⟩
  · have readyNow := (askedInTurn_ready rfl rfl ready asking).1
    refine ⟨outcome_of_isReady _ readyNow, ?_⟩
    rw [outcome_of_isReady _ readyNow]
    simp only [route?, lookupOf, LookupPath.text, PathPattern.isMatch, alike]
  · intro asked now later asking askingLater pattern
    have readyNow := (askedInTurn_ready rfl rfl ready asking).1
    have left := (askedInTurn_ready rfl rfl ready askingLater).2 rfl
    have whole : requirePath ⟨name, order, .parsed {}, table, interceptors⟩ now =
        .ok found.within := by
      rw [requirePath, Request.requireParsedPath_eq_ok_iff.mpr (readyNow.parsed rfl)]
      rfl
    have normalForm : requirePath ⟨otherName, otherOrder, .resolved, table, interceptors⟩ later =
        .ok (normalizeLookupPath found.within) := Request.requireLookupPath_eq_ok_iff.mpr left
    rw [matchPattern_of_requirePath whole, matchPattern_of_requirePath normalForm]
    exact sameVerdict_of_match? alike pattern
  · intro pattern
    rw [← normalizeLookupPath_eq_collapseSlashes opens ordinary.plain]
    exact alike pattern

section

private abbrev booksRoutes : List RoutePlan :=
  [⟨"/books/\x7bid\x7d/", .operation "book", none⟩, ⟨"books/**", .operation "books", none⟩]

private abbrev booksTable : List Route :=
  [⟨⟨"/books/\x7bid\x7d/", [.literal "books", .capture "id"], true, true, {}⟩, .operation "book", none⟩,
    ⟨⟨"/books/**", [.literal "books", .multi], true, false, {}⟩, .operation "books", none⟩]

private abbrev booksRequest : Request where
  uri := ⟨none, none, "/app//books///7//", none⟩
  contextPath := "/app"

private abbrev booksPath : RequestPath := ⟨"/app", "//books///7//"⟩

private abbrev booksFirst : Request :=
  booksRequest.setAttribute AttributeName.parsedPath (.requestPath booksPath)

private abbrev booksSplit : PatternRouter := ⟨"split", 0, .parsed {}, booksTable, []⟩

private abbrev booksNormal : PatternRouter := ⟨"normal", 1, .resolved, booksTable, []⟩

/-- Both routers find the book, the second one also once it has left the normal form behind. -/
theorem answer_alike_books :
    RouterPlan.build ⟨"split", 0, .parsed {}, booksRoutes, []⟩ = .ok booksSplit ∧
      RouterPlan.build ⟨"normal", 1, .resolved, booksRoutes, []⟩ = .ok booksNormal ∧
      booksRequest.cacheParsedPath = .ok (booksPath, booksFirst) ∧ IsOrdinary booksPath.within ∧
      (booksSplit.resolve booksFirst).outcome = .ok (some ⟨.operation "book", []⟩) ∧
      (booksNormal.resolve booksFirst).outcome = .ok (some ⟨.operation "book", []⟩) ∧
      SameVerdict "/\x7b*rest\x7d" (booksSplit.matchPattern booksFirst "/\x7b*rest\x7d")
        (booksNormal.matchPattern (booksNormal.leave booksFirst) "/\x7b*rest\x7d") := by
  have splitBuilt : RouterPlan.build ⟨"split", 0, .parsed {}, booksRoutes, []⟩ = .ok booksSplit := rfl
  have normalBuilt : RouterPlan.build ⟨"normal", 1, .resolved, booksRoutes, []⟩ = .ok booksNormal := rfl
  have cached : booksRequest.cacheParsedPath = .ok (booksPath, booksFirst) := rfl
  have ordinary : IsOrdinary booksPath.within := ⟨by decide, .inr ⟨'b', by decide, by decide⟩⟩
  obtain ⟨⟨answer, answers⟩, verdicts, _⟩ := answer_alike splitBuilt normalBuilt cached ordinary
  obtain ⟨splitAnswer, normalAnswer⟩ := answers false booksFirst .start
  have taken : (booksSplit.resolve booksFirst).outcome = .ok (some ⟨.operation "book", []⟩) := rfl
  exact ⟨splitBuilt, normalBuilt, cached, ordinary, taken,
    normalAnswer.trans (splitAnswer.symm.trans taken),
    verdicts false booksFirst _ .start (.normal .start) _⟩

end

end PatternRouter

end RouteProbe
