import RouteProbe.Proofs.Lookup.LookupPathOrigin
import RouteProbe.Proofs.Lookup.PatternMemo
import RouteProbe.Proofs.Lookup.PolicyLookup
import RouteProbe.Proofs.Request.RestoredAttributes
import RouteProbe.Proofs.Route.PathModes

/-! # Verdicts are independent of the request

A bound router judges a pattern by the path that it is bound to. For the match this path
is put on the request at hand, and afterwards whatever was in its place is put back. Main statement:
a router that introspection has bound tells all requests the same about a pattern, and gives them
back as they were, whatever it tells them (`Introspector.matchBound_of_binds`).
-/

namespace RouteProbe

theorem PatternRouter.Behind.matcher_eq {pattern : PatternRouter} {fails : List String}
    {router : Router} (behind : pattern.Behind fails router) :
    router.matcher = some ⟨pattern.mode.declared?, pattern.matchPattern⟩ := by
  induction behind with
  | plain => rfl
  | counted _ ih => exact ih
  | failing _ _ ih => exact ih

namespace BoundRouter

variable {bound : BoundRouter} {pattern : PatternRouter} {caches : List PatternCache}
  {store : Store} {text : String} {outcome : Except RoutingError (Option PathMatch)}

/-- What a bound router tells about a pattern, by the state of its table: that there is no room for
the pattern, that it cannot be read, or how it matches the path that the router is bound to. -/
inductive Judges (bound : BoundRouter) (store : Store) (text : String) :
    Except RoutingError (Option PathMatch) → Prop
  | full {cache : PatternCache} (cached : bound.cache? = some cache)
      (crowded : ¬ bound.HasRoom store text) :
      Judges bound store text (.error (cache.full (fullPattern text)))
  | unreadable {error : RoutingError} (room : bound.HasRoom store text)
      (refused : PathPattern.parse (bound.options?.getD {}) (fullPattern text) = .error error) :
      Judges bound store text (.error error)
  | judged {read : PathPattern} (room : bound.HasRoom store text)
      (parsed : PathPattern.parse (bound.options?.getD {}) (fullPattern text) = .ok read) :
      Judges bound store text (.ok (read.matchPath? bound.lookup.text))

/-- A match tells the full text of the pattern, and the path that the router is bound to. -/
theorem Judges.reports {found : PathMatch} (judges : bound.Judges store text (.ok (some found))) :
    found.pattern = fullPattern text ∧ found.path = bound.lookup.text := by
  generalize told : (.ok (some found) : Except RoutingError (Option PathMatch)) = outcome at judges
  cases judges with
  | full | unreadable => cases told
  | @judged read room parsed =>
    obtain ⟨bindings, _, rfl⟩ := Option.map_eq_some_iff.mp (Except.ok.inj told).symm
    obtain ⟨_, _, rfl⟩ := PathPattern.parse_eq_ok_iff.mp parsed
    exact ⟨rfl, rfl⟩

theorem judges_of_room (room : bound.HasRoom store text) :
    bound.Judges store text ((PathPattern.parse (bound.options?.getD {}) (fullPattern text)).map
      fun read => read.matchPath? bound.lookup.text) := by
  cases parsed : PathPattern.parse (bound.options?.getD {}) (fullPattern text) with
  | error error => exact .unreadable room parsed
  | ok read => exact .judged room parsed

/-- A router that is bound to a split path reads it off the request, where it has just put it. -/
theorem exists_judges_parsed {cache : PatternCache} (path : RequestPath)
    (sound : ∀ entry ∈ store.table cache.table, PathPattern.parse cache.options entry.1 = .ok entry.2)
    (text : String) :
    ∃ outcome after, (parsed cache path).Judges store text outcome ∧ ∀ request,
      (parsed cache path).matchBound store request text = (outcome, after, request) := by
  have search := cache.search_find (store.table cache.table) (fullPattern text)
  refine ⟨(cache.find (store.table cache.table) (fullPattern text)).1.map
      fun read => read.matchPath? path.within,
    store.setTable cache.table (cache.find (store.table cache.table) (fullPattern text)).2, ?_, ?_⟩
  · by_cases room : (parsed cache path).HasRoom store text
    · rw [search.eq_parse sound (room cache rfl)]
      exact judges_of_room room
    · have crowded := room
      simp only [HasRoom, cache?, Option.some.injEq, forall_eq', not_or, not_not, Nat.not_lt]
        at crowded
      rw [search.of_crowded crowded.1 crowded.2]
      exact .full rfl room
  · intro request
    have carried := request.parsedPath?_setAttribute_parsedPath path
    have restored :=
      request.restoreAttribute_setAttribute AttributeName.parsedPath (.requestPath path)
    simp only [matchBound, matchPattern, PatternCache.matchStored, lookup, LookupPath.attributeName,
      LookupPath.attributeValue, PatternCache.matchPattern_of_split carried, restored]

/-- A router that is bound to a normal form does so as well, and keeps no table. -/
theorem exists_judges_resolved {router : Router} (mode : pattern.mode = .resolved) (path : String)
    (store : Store) (text : String) :
    ∃ outcome after, (resolved router ⟨none, pattern.matchPattern⟩ path).Judges store text outcome ∧
      ∀ request, (resolved router ⟨none, pattern.matchPattern⟩ path).matchBound store request text =
        (outcome, after, request) := by
  refine ⟨_, store, judges_of_room nofun, fun request => ?_⟩
  have carried : pattern.requirePath
      (request.setAttribute AttributeName.lookupPath (.text path)) = .ok path := by
    rw [PatternRouter.requirePath, mode]
    exact Request.requireLookupPath_eq_ok_iff.mpr (request.lookupPath?_setAttribute_lookupPath path)
  have restored := request.restoreAttribute_setAttribute AttributeName.lookupPath (.text path)
  simp only [matchBound, matchPattern, lookup, LookupPath.attributeName, LookupPath.attributeValue,
    PatternRouter.matchPattern_of_requirePath carried, mode, restored]
  rfl

theorem exists_judges_of_formOf (form : pattern.FormOf bound) (known : bound.KnownTo caches)
    (sound : store.Sound caches) (text : String) :
    ∃ outcome after, bound.Judges store text outcome ∧
      ∀ request, bound.matchBound store request text = (outcome, after, request) := by
  cases form with
  | @parsed cache split => exact exists_judges_parsed split (sound.read cache (known cache rfl)) text
  | @resolved router path mode => exact exists_judges_resolved mode path store text

end BoundRouter

theorem UnreliableRouter.formOf_of_bind {candidate : UnreliableRouter} {entry : RegisteredRouter}
    {probe : Request} {bound : BoundRouter} (wellFormed : entry.WellFormed)
    (same : entry.router = candidate.router) (binding : entry.bind probe = .ok bound) :
    candidate.pattern.FormOf bound := by
  have declared := wellFormed.options_eq
  rw [same, candidate.behind.patternOptions?_eq] at declared
  rcases RegisteredRouter.bind_eq_ok_iff.mp binding with
    ⟨cache, split, cached, _, rfl⟩ | ⟨uncached, matcher, path, matchable, _, rfl⟩
  · rw [cached, Option.map_some] at declared
    cases mode : candidate.pattern.mode with
    | parsed options =>
      rw [mode] at declared
      obtain rfl := Option.some.inj declared
      exact .parsed mode
    | resolved =>
      rw [mode] at declared
      cases declared
  · rw [uncached, Option.map_none] at declared
    rw [same, candidate.behind.matcher_eq, ← declared] at matchable
    obtain rfl := Option.some.inj matchable
    cases mode : candidate.pattern.mode with
    | parsed options =>
      rw [mode] at declared
      cases declared
    | resolved => exact .resolved mode

namespace Introspector

variable {introspector : Introspector} {caches : List PatternCache} {earlier store : Store}
  {origin : Request} {bound : BoundRouter}

theorem exists_entry_of_pass {α : Type} {ignoring : Bool} {extract : Pass.Extractor α}
    {request : Request} {value : α}
    (found : (introspector.pass ignoring extract request).outcome = .ok (some value)) :
    ∃ entries, introspector.registry.entries? = some entries ∧
      ∃ entry ∈ entries, ∃ chain probe, (extract entry chain probe).1 = .ok value := by
  cases listed : introspector.registry.entries? with
  | none =>
    simp only [pass, Pass.run, RouterRegistry.require, listed] at found
    cases found
  | some entries =>
    rw [pass, Pass.run_outcome listed] at found
    obtain ⟨_, _, asked⟩ := bind_eq_ok_iff.mp found
    obtain ⟨before, entry, after, probe, chain, rfl, _, _, extracted⟩ := Pass.ask_eq_found asked
    exact ⟨_, rfl, entry, by simp, chain, _, extracted⟩

theorem exists_bind_of_binds (fresh : earlier.remembered? origin = none)
    (binds : introspector.Binds earlier origin bound) :
    ∃ entries, introspector.registry.entries? = some entries ∧
      ∃ entry ∈ entries, ∃ probe, entry.bind probe = .ok bound := by
  rcases binds with found | ⟨filled, after, ran, left⟩
  · simp only [boundRouter, fresh] at found
    obtain ⟨entries, listed, entry, member, _, probe, binding⟩ := exists_entry_of_pass found
    exact ⟨entries, listed, entry, member, probe, binding⟩
  · obtain ⟨policy, found⟩ := findAnswers_of_fill fresh ran left
    obtain ⟨entries, listed, entry, member, _, probe, answers⟩ := exists_entry_of_pass found
    exact ⟨entries, listed, entry, member, probe, RegisteredRouter.bind_of_answers answers⟩

/-- A router that introspection has bound, over pattern routers that may be wrapped, judges a
pattern without regard to the request at hand: all requests are told the same about it, which leaves
the same patterns in the tables, and every request is given back as it was. A match tells the
pattern with a slash in front, unless it is empty. -/
theorem matchBound_of_binds {served : List UnreliableRouter}
    (serves : introspector.registry.routers = served.map (·.router))
    (fresh : earlier.remembered? origin = none) (binds : introspector.Binds earlier origin bound)
    (arises : introspector.ArisesIn caches store) (text : String) :
    ∃ outcome after, bound.Judges store text outcome ∧
      (∀ request, bound.matchBound store request text = (outcome, after, request)) ∧
      ∀ found, outcome = .ok (some found) → found.path = bound.lookup.text ∧
        found.pattern =
          if text = "" ∨ text.toList.head? = some '/' then text else "/" ++ text := by
  obtain ⟨entries, listed, entry, member, probe, binding⟩ := exists_bind_of_binds fresh binds
  obtain ⟨wellFormed, known⟩ := arises.registry listed
  have routed : entry.router ∈ served.map (·.router) := by
    rw [← serves, RouterRegistry.routers, listed, Option.getD_some]
    exact List.mem_map_of_mem member
  obtain ⟨candidate, _, same⟩ := List.mem_map.mp routed
  have form := candidate.formOf_of_bind (wellFormed entry member) same.symm binding
  have cached : bound.KnownTo caches := by
    intro cache has
    rw [RegisteredRouter.cache?_of_bind binding] at has
    refine known cache ?_
    rw [RouterRegistry.caches, listed]
    exact List.mem_filterMap.mpr ⟨entry, member, has⟩
  have sound := arises.reached.sound Store.sound_start
  obtain ⟨outcome, after, judges, told⟩ :=
    BoundRouter.exists_judges_of_formOf form cached sound text
  refine ⟨outcome, after, judges, told, ?_⟩
  rintro found rfl
  obtain ⟨reported, path⟩ := judges.reports
  refine ⟨path, ?_⟩
  simp only [reported, fullPattern, String.toList_eq_nil_iff]

section

private abbrev unsteadyRouter : UnreliableRouter :=
  ⟨guideRouter.toRouter.counted.failingOn "/down", guideRouter, ["/down"],
    .failing "/down" (.counted .plain)⟩

private abbrev unsteadyContext : RouterContext where
  own := { routers := [("guide", unsteadyRouter.router)] }

private abbrev unsteadyRequest : Request := { uri := ⟨none, none, "/docs/b", none⟩ }

private abbrev unsteadyCache : PatternCache := ⟨unsteadyRouter.router, {}, 1024, 0⟩

private abbrev downRequest : Request :=
  Request.setAttribute { method := .post, uri := ⟨none, none, "/down", none⟩ }
    AttributeName.lookupPath (.text "/elsewhere")

theorem matchBound_of_binds_unsteady :
    ∃ introspector begun,
      (Introspector.mk unsteadyContext {} {}).prepare {} = (.ok introspector, begun) ∧
        ∃ bound, (introspector.boundRouter begun unsteadyRequest).1 = .ok (some bound) ∧
          ∃ after, bound.matchBound begun downRequest "docs/**" =
            (.ok (some ⟨"/docs/**", "/docs/b", {}⟩), after, downRequest) := by
  have visible : unsteadyContext.routers.map (·.2) = [unsteadyRouter.router] := by rfl
  have registered : unsteadyContext.routers ≠ [] := List.cons_ne_nil _ _
  obtain ⟨introspector, begun, prepared⟩ := Introspector.exists_prepare registered {} {}
  obtain ⟨listed, empty⟩ : introspector.registry.entries? =
      some [⟨unsteadyRouter.router, some unsteadyCache⟩] ∧ begun.table 0 = [] := by
    obtain ⟨notice, discovered⟩ := discover_of_routers registered {}
    rw [visible, List.mergeSort_singleton] at discovered
    obtain ⟨same, rfl⟩ :=
      Prod.mk.inj (prepared.symm.trans (Introspector.prepare_of_discover discovered))
    obtain rfl := Except.ok.inj same
    exact ⟨rfl, rfl⟩
  have settings : introspector.settings = {} := by
    obtain ⟨_, _, _, rfl, _⟩ := Introspector.prepare_eq_ok prepared
    rfl
  have unbound : begun.remembered? unsteadyRequest = none := by rfl
  have asked : (introspector.boundRouter begun unsteadyRequest).1 =
      .ok (some (.parsed unsteadyCache ⟨"", "/docs/b"⟩)) := by
    rw [Introspector.boundRouter_outcome listed unbound, Introspector.firstProbe, settings]
    rfl
  have serves : introspector.registry.routers = [unsteadyRouter].map (·.router) := by
    rw [RouterRegistry.routers, listed]
    rfl
  obtain ⟨outcome, after, judges, told, _⟩ :=
    matchBound_of_binds serves unbound (.inl asked) (.prepared .refl prepared .refl) "docs/**"
  refine ⟨introspector, begun, prepared, _, asked, after, ?_⟩
  have room : (BoundRouter.parsed unsteadyCache ⟨"", "/docs/b"⟩).HasRoom begun "docs/**" := by
    intro cache has
    obtain rfl := Option.some.inj has
    rw [empty]
    exact .inr (by decide)
  have read : PathPattern.parse {} (fullPattern "docs/**") =
      .ok ⟨"/docs/**", [.literal "docs", .multi], true, false, {}⟩ := by rfl
  have found : outcome = .ok (some ⟨"/docs/**", "/docs/b", {}⟩) := by
    cases judges with
    | full _ crowded => exact absurd room crowded
    | unreadable _ refused => cases refused.symm.trans read
    | judged _ parsed =>
      obtain rfl := Except.ok.inj (parsed.symm.trans read)
      rfl
  rw [told, found]

end

end Introspector

end RouteProbe
