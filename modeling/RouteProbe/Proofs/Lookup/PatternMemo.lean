import RouteProbe.Proofs.Discovery.Registrations
import RouteProbe.Proofs.Lookup.Evolution
import RouteProbe.Proofs.NamedLists
import RouteProbe.Proofs.Route.PatternRouters

/-! # What pattern tables remember

A cache reads a pattern when it is asked about it for the first time, and keeps what it has read as
long as there is room. What it keeps is never more than the first patterns that can be read, and
nobody who finds room can tell from the answers that anything is kept. Main statement: what a cache
holds after any calls, whatever else becomes of the store meanwhile, and how it answers then.
-/

namespace RouteProbe

/-- A request about which a cache is asked, and the pattern that is to be matched. -/
structure PatternCall where
  request : Request
  pattern : String

namespace PatternCache

variable {cache : PatternCache} {table : PatternTable} {text : String} {request : Request}
  {path : RequestPath} {calls : List PatternCall}

/-- What comes of a search for a pattern: an answer and a table. -/
inductive Search (cache : PatternCache) (table : PatternTable) (text : String) :
    Except RoutingError PathPattern → PatternTable → Prop
  | known {pattern : PathPattern} (held : table.lookup text = some pattern) :
      Search cache table text (.ok pattern) table
  | full (absent : table.lookup text = none) (crowded : cache.limit.toNat ≤ table.length) :
      Search cache table text (.error (cache.full text)) table
  | unreadable {error : RoutingError} (absent : table.lookup text = none)
      (room : table.length < cache.limit.toNat)
      (refused : PathPattern.parse cache.options text = .error error) :
      Search cache table text (.error error) table
  | added {pattern : PathPattern} (absent : table.lookup text = none)
      (room : table.length < cache.limit.toNat)
      (read : PathPattern.parse cache.options text = .ok pattern) :
      Search cache table text (.ok pattern) (table ++ [(text, pattern)])

theorem search_find (cache : PatternCache) (table : PatternTable) (text : String) :
    cache.Search table text (cache.find table text).1 (cache.find table text).2 := by
  unfold find
  split
  next held => exact .known held
  next absent =>
    split
    next crowded => exact .full absent crowded
    next room =>
      split
      next refused => exact .unreadable absent (by omega) refused
      next read => exact .added absent (by omega) read

/-- What reading a pattern and matching it comes to without a table. -/
def matchAfresh (cache : PatternCache) (path : RequestPath) (text : String) :
    Except RoutingError (Option PathMatch) :=
  (PathPattern.parse cache.options text).map fun pattern => pattern.matchPath? path.within

/-- The patterns that can be read among those that calls about requests with a split path have asked
for. -/
def readable (cache : PatternCache) (calls : List PatternCall) : List String :=
  (calls.filter fun call => call.request.parsedPath?.isSome &&
    (PathPattern.parse cache.options call.pattern).isOk).map (·.pattern)

/-- What a table holds after calls: the first different patterns that could be read, as many as have
room, each with what reading it gives. -/
structure Remembers (cache : PatternCache) (calls : List PatternCall) (table : PatternTable) :
    Prop where
  texts : table.map (·.1) = (cache.readable calls).eraseDups.take cache.limit.toNat
  read : ∀ entry ∈ table, PathPattern.parse cache.options entry.1 = .ok entry.2

theorem readable_append_of_unsplit (unsplit : request.parsedPath? = none) :
    cache.readable (calls ++ [⟨request, text⟩]) = cache.readable calls := by
  simp [readable, unsplit]

theorem readable_append_of_error {error : RoutingError}
    (refused : PathPattern.parse cache.options text = .error error) :
    cache.readable (calls ++ [⟨request, text⟩]) = cache.readable calls := by
  simp [readable, refused, Except.isOk, Except.toBool]

theorem readable_append_of_ok {pattern : PathPattern} (split : request.parsedPath? = some path)
    (read : PathPattern.parse cache.options text = .ok pattern) :
    cache.readable (calls ++ [⟨request, text⟩]) = cache.readable calls ++ [text] := by
  simp [readable, split, read, Except.isOk, Except.toBool]

theorem matchPattern_of_unsplit (unsplit : request.parsedPath? = none) :
    cache.matchPattern table request text =
      (.error (.missingAttribute "parsed request path" AttributeName.parsedPath), table) := by
  simp only [PatternCache.matchPattern, Request.requireParsedPath, unsplit]

theorem matchPattern_of_split (split : request.parsedPath? = some path) :
    cache.matchPattern table request text =
      ((cache.find table text).1.map fun pattern => pattern.matchPath? path.within,
        (cache.find table text).2) := by
  simp only [PatternCache.matchPattern, Request.requireParsedPath, split]

/-- A call fails without a split path, and is a search with one. -/
theorem matchPattern_cases (cache : PatternCache) (table : PatternTable) (request : Request)
    (text : String) :
    request.parsedPath? = none ∧ cache.matchPattern table request text =
        (.error (.missingAttribute "parsed request path" AttributeName.parsedPath), table) ∨
      ∃ path answer later, request.parsedPath? = some path ∧ cache.Search table text answer later ∧
        cache.matchPattern table request text =
          (answer.map fun pattern => pattern.matchPath? path.within, later) := by
  cases split : request.parsedPath? with
  | none => exact .inl ⟨rfl, matchPattern_of_unsplit split⟩
  | some path =>
    exact .inr ⟨path, _, _, rfl, cache.search_find table text, matchPattern_of_split split⟩

namespace Remembers

theorem nil (cache : PatternCache) : cache.Remembers [] [] := by
  constructor
  · simp [readable]
  · simp

theorem length_eq (remembers : cache.Remembers calls table) :
    table.length = min cache.limit.toNat (cache.readable calls).eraseDups.length := by
  rw [← List.length_map, remembers.texts, List.length_take]

theorem texts_of_room (remembers : cache.Remembers calls table)
    (room : table.length < cache.limit.toNat) :
    table.map (·.1) = (cache.readable calls).eraseDups := by
  have length := remembers.length_eq
  rw [remembers.texts, List.take_of_length_le (by omega)]

/-- A search for a pattern leaves the texts as they ought to be after one more call. -/
theorem texts_of_search (remembers : cache.Remembers calls table)
    (split : request.parsedPath? = some path) {answer : Except RoutingError PathPattern}
    {later : PatternTable} (search : cache.Search table text answer later) :
    later.map (·.1) =
      (cache.readable (calls ++ [⟨request, text⟩])).eraseDups.take cache.limit.toNat := by
  -- Where the text can be read, the readable texts get one more; whether it counts as a different
  -- one is decided by those that are there, not by those that the table has room for.
  have concat {pattern : PathPattern} (read : PathPattern.parse cache.options text = .ok pattern) :
      (cache.readable (calls ++ [⟨request, text⟩])).eraseDups =
        if text ∈ cache.readable calls then (cache.readable calls).eraseDups
        else (cache.readable calls).eraseDups ++ [text] := by
    rw [readable_append_of_ok split read, eraseDups_concat]
  cases search with
  | @known pattern held =>
    have member := mem_of_lookup held
    have listed : text ∈ table.map (·.1) := List.mem_map_of_mem member
    rw [remembers.texts] at listed
    have earlier : text ∈ cache.readable calls :=
      List.mem_eraseDups.mp (List.mem_of_mem_take listed)
    have read := remembers.read (text, pattern) member
    rw [concat read, if_pos earlier, remembers.texts]
  | full absent crowded =>
    rw [remembers.texts]
    have length := remembers.length_eq
    cases read : PathPattern.parse cache.options text with
    | error error => rw [readable_append_of_error read]
    | ok pattern =>
      rw [concat read]
      split
      · rfl
      · rw [List.take_append_of_le_length (by omega)]
  | unreadable absent room refused =>
    rw [readable_append_of_error refused, remembers.texts]
  | added absent room read =>
    have texts := remembers.texts_of_room room
    rw [lookup_eq_none_iff, texts, List.mem_eraseDups] at absent
    have length := congrArg List.length texts
    rw [List.length_map] at length
    rw [concat read, if_neg absent, List.map_append, texts, List.take_of_length_le]
    · rfl
    · rw [List.length_append, List.length_singleton]
      omega

/-- Every call leaves the table as it ought to be after one more call. -/
theorem matchPattern (remembers : cache.Remembers calls table) (request : Request)
    (text : String) :
    cache.Remembers (calls ++ [⟨request, text⟩]) (cache.matchPattern table request text).2 := by
  refine ⟨?_, cache.matchPattern_read request text remembers.read⟩
  rcases cache.matchPattern_cases table request text with
    ⟨unsplit, same⟩ | ⟨path, answer, later, split, search, same⟩
  · rw [readable_append_of_unsplit unsplit, same, remembers.texts]
  · rw [same]
    exact remembers.texts_of_search split search

end Remembers

namespace Search

variable {answer : Except RoutingError PathPattern} {later : PatternTable}

/-- A pattern that is held or has room is found as it is read. -/
theorem eq_parse (search : cache.Search table text answer later)
    (sound : ∀ entry ∈ table, PathPattern.parse cache.options entry.1 = .ok entry.2)
    (room : table.lookup text ≠ none ∨ table.length < cache.limit.toNat) :
    answer = PathPattern.parse cache.options text := by
  cases search with
  | @known pattern held => exact (sound (text, pattern) (mem_of_lookup held)).symm
  | full absent crowded =>
    rcases room with held | vacant
    · exact absurd absent held
    · omega
  | unreadable absent room refused => exact refused.symm
  | added absent room read => exact read.symm

/-- A new pattern is turned away if there is no room. -/
theorem of_crowded (search : cache.Search table text answer later)
    (absent : table.lookup text = none) (crowded : cache.limit.toNat ≤ table.length) :
    answer = .error (cache.full text) := by
  cases search with
  | known held =>
    rw [absent] at held
    cases held
  | full => rfl
  | unreadable _ room _ | added _ room _ => omega

/-- A search that fails leaves the table as it was. -/
theorem of_error {error : RoutingError} (search : cache.Search table text (.error error) later) :
    later = table := by
  cases search with
  | full | unreadable => rfl

/-- A search for a pattern that is held leaves the table as it was. -/
theorem of_held (search : cache.Search table text answer later) (held : table.lookup text ≠ none) :
    later = table := by
  cases search with
  | known => rfl
  | full absent | unreadable absent | added absent => exact absurd absent held

/-- A search takes nothing out of the table. -/
theorem table_grows (search : cache.Search table text answer later) : table <+: later := by
  cases search with
  | known | full | unreadable => exact List.prefix_rfl
  | added => exact List.prefix_append _ _

end Search

/-- A call takes nothing out of the table. -/
theorem prefix_matchPattern (cache : PatternCache) (table : PatternTable) (request : Request)
    (text : String) : table <+: (cache.matchPattern table request text).2 := by
  rcases cache.matchPattern_cases table request text with
    ⟨_, same⟩ | ⟨path, answer, later, _, search, same⟩
  · simp only [same, List.prefix_rfl]
  · rw [same]
    exact search.table_grows

theorem matchPattern_of_held (held : table.lookup text ≠ none) :
    (cache.matchPattern table request text).2 = table := by
  rcases cache.matchPattern_cases table request text with
    ⟨_, same⟩ | ⟨path, answer, later, _, search, same⟩
  · rw [same]
  · rw [same]
    exact search.of_held held

theorem matchPattern_of_error {error : RoutingError}
    (failed : (cache.matchPattern table request text).1 = .error error) :
    (cache.matchPattern table request text).2 = table := by
  rcases cache.matchPattern_cases table request text with
    ⟨_, same⟩ | ⟨path, answer, later, _, search, same⟩
  · rw [same]
  · rw [same] at failed ⊢
    obtain rfl := exceptMap_eq_error_iff.mp failed
    exact search.of_error

end PatternCache

theorem Store.setTable_table (store : Store) {number : Nat}
    (numbered : number < store.tables.length) :
    store.setTable number (store.table number) = store := by
  have same : store.table number = store.tables[number] := by
    rw [table, List.getD_eq_getElem?_getD, List.getElem?_eq_getElem numbered, Option.getD_some]
  rw [setTable, same, List.set_getElem_self]

namespace PatternCache

variable {cache : PatternCache} {begun reached : Store} {calls : List PatternCall}
  {request : Request} {path : RequestPath}

/-- How a cache is used from some moment on: the calls, in order, and the store that they lead to.
Besides the calls anything may become of the store that leaves the table of the cache alone. -/
inductive History (cache : PatternCache) (begun : Store) : List PatternCall → Store → Prop
  | start : History cache begun [] begun
  | call {calls : List PatternCall} {reached : Store} (earlier : History cache begun calls reached)
      (request : Request) (text : String) :
      History cache begun (calls ++ [⟨request, text⟩]) (cache.matchStored reached request text).2
  | meanwhile {calls : List PatternCall} {reached later : Store}
      (earlier : History cache begun calls reached)
      (table : later.table cache.table = reached.table cache.table)
      (numbers : reached.tables.length ≤ later.tables.length) : History cache begun calls later

/-- How a cache answers about a request and a pattern. Whoever is told of an illegal state has left
no split path on the request, or comes with a new pattern to a table without room. -/
structure Answers (cache : PatternCache) (store : Store) (request : Request) (text : String) :
    Prop where
  unsplit : request.parsedPath? = none → cache.matchStored store request text =
    (.error (.missingAttribute "parsed request path" AttributeName.parsedPath), store)
  afresh : ∀ path, request.parsedPath? = some path →
    ((store.table cache.table).lookup text ≠ none ∨
      (store.table cache.table).length < cache.limit.toNat) →
    (cache.matchStored store request text).1 = cache.matchAfresh path text
  full : ∀ path, request.parsedPath? = some path → (store.table cache.table).lookup text = none →
    cache.limit.toNat ≤ (store.table cache.table).length →
    cache.matchStored store request text = (.error (cache.full text), store)
  held : (store.table cache.table).lookup text ≠ none →
    (cache.matchStored store request text).2 = store
  failed : ∀ error, (cache.matchStored store request text).1 = .error error →
    (cache.matchStored store request text).2 = store

theorem table_matchStored (numbered : cache.table < begun.tables.length) (request : Request)
    (text : String) :
    (cache.matchStored begun request text).2.table cache.table =
      (cache.matchPattern (begun.table cache.table) request text).2 := by
  have stored := begun.table_setTable cache.table cache.table
    (cache.matchPattern (begun.table cache.table) request text).2 numbered
  rw [if_pos rfl] at stored
  exact stored

namespace History

/-- The number of the table stays one. -/
theorem numbered (history : cache.History begun calls reached)
    (numbered : cache.table < begun.tables.length) : cache.table < reached.tables.length := by
  induction history with
  | start => exact numbered
  | @call _ reached _ request text ih =>
    have same : (cache.matchStored reached request text).2.tables.length =
        reached.tables.length := List.length_set
    omega
  | meanwhile _ _ numbers ih => omega

/-- Any further calls can be made. -/
theorem extend {earlier : List PatternCall} (history : cache.History begun earlier reached)
    (calls : List PatternCall) : ∃ later, cache.History begun (earlier ++ calls) later := by
  induction calls generalizing earlier reached with
  | nil => exact ⟨reached, by rwa [List.append_nil]⟩
  | cons first rest ih =>
    obtain ⟨later, further⟩ := ih (history.call first.request first.pattern)
    rw [List.append_assoc] at further
    exact ⟨later, further⟩

/-- After a history the table holds what it ought to after the calls made before it and those made
in it. -/
theorem remembers (history : cache.History begun calls reached)
    (numbered : cache.table < begun.tables.length) {earlier : List PatternCall}
    (before : cache.Remembers earlier (begun.table cache.table)) :
    cache.Remembers (earlier ++ calls) (reached.table cache.table) := by
  induction history with
  | start => rwa [List.append_nil]
  | call made request text ih =>
    rw [table_matchStored (made.numbered numbered), ← List.append_assoc]
    exact ih.matchPattern request text
  | meanwhile _ table _ ih => rwa [table]

/-- A table never loses a pattern. -/
theorem table_grows (history : cache.History begun calls reached)
    (numbered : cache.table < begun.tables.length) :
    begun.table cache.table <+: reached.table cache.table := by
  induction history with
  | start => exact List.prefix_rfl
  | call made request text ih =>
    rw [table_matchStored (made.numbered numbered)]
    exact ih.trans (cache.prefix_matchPattern _ request text)
  | meanwhile _ table _ ih => rwa [table]

end History

/-- A table that holds what it ought to is no more than a help. -/
theorem Remembers.answers {store : Store} (numbered : cache.table < store.tables.length)
    (remembers : cache.Remembers calls (store.table cache.table)) (request : Request)
    (text : String) : cache.Answers store request text := by
  have unchanged := store.setTable_table numbered
  have search := cache.search_find (store.table cache.table) text
  have failed : ∀ error, (cache.matchStored store request text).1 = .error error →
      (cache.matchStored store request text).2 = store := by
    intro error failed
    simp only [matchStored, matchPattern_of_error failed, unchanged]
  constructor
  · intro unsplit
    simp only [matchStored, matchPattern_of_unsplit unsplit, unchanged]
  · intro path split room
    simp only [matchStored, matchPattern_of_split split, search.eq_parse remembers.read room]
    rfl
  · intro path split absent crowded
    have refused : (cache.matchStored store request text).1 = .error (cache.full text) := by
      simp only [matchStored, matchPattern_of_split split, search.of_crowded absent crowded]
      rfl
    exact Prod.ext refused (failed _ refused)
  · intro held
    simp only [matchStored, matchPattern_of_held held, unchanged]
  · exact failed

theorem addCache_of_declared {router : Router} {options : PatternOptions}
    (declared : router.patternOptions? = some options) (limit : UInt64) (store : Store) :
    store.addCache router limit =
      (some ⟨router, options, limit, store.tables.length⟩,
        { store with tables := store.tables ++ [[]] }) := by
  rw [Store.addCache, declared]

theorem matchPattern_eq_matchAfresh (cache : PatternCache) {pattern : PatternRouter}
    (serves : pattern.Serves cache.router)
    (declared : cache.router.patternOptions? = some cache.options)
    (split : request.parsedPath? = some path) (text : String) :
    cache.router.matcher.map (·.matchPattern request text) =
      some (cache.matchAfresh path text) := by
  rw [serves.patternOptions?_eq] at declared
  cases mode : pattern.mode with
  | resolved =>
    rw [mode] at declared
    cases declared
  | parsed options =>
    rw [mode] at declared
    obtain rfl := Option.some.inj declared
    have required := Request.requireParsedPath_eq_ok_iff.mpr split
    have found : pattern.requirePath request = .ok path.within := by
      simp only [PatternRouter.requirePath, mode, required]
      rfl
    have sameOptions : pattern.mode.options = cache.options := by
      rw [mode]
      rfl
    simp only [serves.matcher_eq, Option.map_some, PatternRouter.matchPattern, found, ok_bind,
      sameOptions, matchAfresh]
    cases PathPattern.parse cache.options text <;> rfl

/-- Whatever is asked of the cache of a router, and whatever else becomes of the store meanwhile:
the table holds the first different patterns that can be read, as many as have room, and never loses
one. On a request with a split path, a pattern that is held or has room is matched as if it were
read afresh, be it that it cannot be read, and so does a pattern router for split paths match it
itself. All other calls are answered with an illegal state. A call with a pattern that is held
leaves no trace, and neither does one that fails. -/
theorem remembers_of_history {router : Router} {options : PatternOptions}
    (declared : router.patternOptions? = some options) (limit : UInt64) (store : Store) :
    ∃ cache begun, store.addCache router limit = (some cache, begun) ∧
      cache.options = options ∧ cache.limit = limit ∧
      (∀ pattern request path text, PatternRouter.Serves pattern router →
        request.parsedPath? = some path →
          router.matcher.map (·.matchPattern request text) = some (cache.matchAfresh path text)) ∧
      ∀ calls reached, cache.History begun calls reached →
        cache.Remembers calls (reached.table cache.table) ∧
        (reached.table cache.table).length ≤ limit.toNat ∧
        (∀ more later, cache.History reached more later →
          reached.table cache.table <+: later.table cache.table) ∧
        ∀ request text, cache.Answers reached request text := by
  let cache : PatternCache := ⟨router, options, limit, store.tables.length⟩
  let begun : Store := { store with tables := store.tables ++ [[]] }
  have numbered : cache.table < begun.tables.length := by simp [cache, begun]
  have empty : begun.table cache.table = [] := by simp [cache, begun, Store.table]
  have first : cache.Remembers [] (begun.table cache.table) := by
    rw [empty]
    exact .nil cache
  refine ⟨cache, begun, addCache_of_declared declared limit store, rfl, rfl, ?_, ?_⟩
  · intro pattern request path text serves split
    exact cache.matchPattern_eq_matchAfresh serves declared split text
  · intro calls reached history
    have remembers := history.remembers numbered first
    refine ⟨remembers, ?_, ?_, ?_⟩
    · have length := remembers.length_eq
      change _ ≤ cache.limit.toNat
      omega
    · exact fun more later further => further.table_grows (history.numbered numbered)
    · exact remembers.answers (history.numbered numbered)

section

private abbrev shopRouter : Router := (PatternRouter.below "shop" (.parsed {})).toRouter.counted

private abbrev unsplitRequest : Request := { uri := ⟨none, none, "/shop/a", none⟩ }

private abbrev splitRequest : Request :=
  unsplitRequest.setAttribute AttributeName.parsedPath (.requestPath ⟨"", "/shop/a"⟩)

/-- One pattern on a request without a split path, one that cannot be read, and one that
can, twice. -/
private abbrev shopCalls : List PatternCall :=
  [⟨unsplitRequest, "/shop"⟩, ⟨splitRequest, "/\x7bid"⟩, ⟨splitRequest, "/shop/**"⟩,
    ⟨splitRequest, "/shop/**"⟩]

/-- The first pattern that can be read takes the only place. It goes on being matched, and another
one is turned away. -/
theorem remembers_of_history_shop :
    shopRouter.patternOptions? = some {} ∧
      ∃ cache begun reached, ({} : Store).addCache shopRouter 1 = (some cache, begun) ∧
        cache.History begun shopCalls reached ∧
        (reached.table cache.table).map (·.1) = ["/shop/**"] ∧
        (cache.matchStored reached splitRequest "/shop/**").1 =
          .ok (some ⟨"/shop/**", "/shop/a", {}⟩) ∧
        cache.matchStored reached splitRequest "/shop/a" =
          (.error (cache.full "/shop/a"), reached) := by
  have declared : shopRouter.patternOptions? = some {} := by rfl
  obtain ⟨cache, begun, added, options, limit, _, remembers⟩ := remembers_of_history declared 1 {}
  obtain ⟨reached, history⟩ := History.extend (.start : cache.History begun [] begun) shopCalls
  obtain ⟨holds, _, _, answers⟩ := remembers shopCalls reached history
  have texts : (reached.table cache.table).map (·.1) = ["/shop/**"] := by
    rw [holds.texts, readable, options, limit]
    rfl
  have held : (reached.table cache.table).lookup "/shop/**" ≠ none := by
    rw [ne_eq, lookup_eq_none_iff, texts]
    decide
  have absent : (reached.table cache.table).lookup "/shop/a" = none := by
    rw [lookup_eq_none_iff, texts]
    decide
  have length := congrArg List.length texts
  rw [List.length_map] at length
  have crowded : cache.limit.toNat ≤ (reached.table cache.table).length := by
    rw [limit, length]
    decide
  refine ⟨declared, cache, begun, reached, added, history, texts, ?_, ?_⟩
  · rw [(answers splitRequest "/shop/**").afresh ⟨"", "/shop/a"⟩ rfl (.inl held), matchAfresh,
      options]
    rfl
  · exact (answers splitRequest "/shop/a").full ⟨"", "/shop/a"⟩ rfl absent crowded

end

end PatternCache

end RouteProbe
