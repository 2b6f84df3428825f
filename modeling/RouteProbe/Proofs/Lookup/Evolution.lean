import RouteProbe.Proofs.Lookup.Binding

/-! # How the store evolves

Introspection changes the store in four ways: it adds to the journal, it keeps routers that it has
bound, it adds pattern tables, and it adds patterns to them. Along any sequence of such changes the
pattern tables stay apart from one another, hold nothing but what reading their texts gives, and
every router that is kept has been bound in a pass.
-/

namespace RouteProbe

/-- A router that was bound in a pass about a request: the entry it belongs to was the first to
answer with a chain, about this probe. -/
inductive BoundRouter.IsBoundIn (bound : BoundRouter) (request probe : Request) (chain : Chain) : Prop
  | intro {suppressed : Bool} {before after : List RegisteredRouter} {entry : RegisteredRouter}
      {first : Request}
      (wellFormed : entry.WellFormed)
      (begins : Pass.splitFor (before ++ entry :: after) (request.probe suppressed) = .ok first)
      (passage : Passage false first before probe)
      (answered : entry.answer probe = .ok (some chain))
      (binding : entry.bind (entry.leave probe) = .ok bound)

/-- Whether the cache of a bound router, if it has one, is among these. -/
def BoundRouter.KnownTo (bound : BoundRouter) (caches : List PatternCache) : Prop :=
  ∀ cache, bound.cache? = some cache → cache ∈ caches

namespace Store

/-- One change of the store and of the caches that have their tables in it. -/
inductive Step : List PatternCache → Store → List PatternCache → Store → Prop
  | record {caches : List PatternCache} {store : Store} (journal : Journal) :
      Step caches store caches (store.record journal)
  | keep {caches : List PatternCache} {store : Store} {bound : BoundRouter}
      {request probe : Request} {chain : Chain} (made : bound.IsBoundIn request probe chain)
      (known : bound.KnownTo caches) : Step caches store caches (store.keep bound).2
  | addCache {caches : List PatternCache} {store : Store} (router : Router) (limit : UInt64) :
      Step caches store (caches ++ (store.addCache router limit).1.toList)
        (store.addCache router limit).2
  | matchStored {caches : List PatternCache} {store : Store} {cache : PatternCache}
      (known : cache ∈ caches) (request : Request) (pattern : String) :
      Step caches store caches (cache.matchStored store request pattern).2

/-- Any number of changes, one after another. -/
inductive Evolves (caches : List PatternCache) (store : Store) : List PatternCache → Store → Prop
  | refl : Evolves caches store caches store
  | step {middleCaches laterCaches : List PatternCache} {middle later : Store}
      (earlier : Evolves caches store middleCaches middle)
      (last : Step middleCaches middle laterCaches later) : Evolves caches store laterCaches later

/-- What holds of a store with the caches that have their tables in it. -/
structure Sound (caches : List PatternCache) (store : Store) : Prop where
  numbered : ∀ cache ∈ caches, cache.table < store.tables.length
  distinct : ∀ cache ∈ caches, ∀ other ∈ caches, cache.table = other.table → cache = other
  read : ∀ cache ∈ caches, ∀ entry ∈ store.table cache.table,
    PathPattern.parse cache.options entry.1 = .ok entry.2
  made : ∀ bound ∈ store.bound,
    bound.KnownTo caches ∧ ∃ request probe chain, bound.IsBoundIn request probe chain

variable {caches middleCaches laterCaches : List PatternCache} {store middle later : Store}

theorem Evolves.trans (first : Evolves caches store middleCaches middle)
    (second : Evolves middleCaches middle laterCaches later) :
    Evolves caches store laterCaches later := by
  induction second with
  | refl => exact first
  | step _ last ih => exact .step ih last

theorem Step.evolves (step : Step caches store laterCaches later) :
    Evolves caches store laterCaches later :=
  .step .refl step

/-- No cache is ever lost. -/
theorem Evolves.subset (evolves : Evolves caches store laterCaches later) :
    ∀ cache ∈ caches, cache ∈ laterCaches := by
  induction evolves with
  | refl => exact fun _ member => member
  | step _ last ih =>
    intro cache member
    have known := ih cache member
    cases last with
    | addCache router limit => exact List.mem_append_left _ known
    | _ => exact known

theorem table_setTable (store : Store) (number sought : Nat) (table : PatternTable)
    (numbered : number < store.tables.length) :
    (store.setTable number table).table sought =
      if sought = number then table else store.table sought := by
  simp only [Store.table, setTable, List.getD_eq_getElem?_getD, List.getElem?_set]
  by_cases same : sought = number
  · subst same
    simp [numbered]
  · rw [if_neg same, if_neg (Ne.symm same)]

end Store

/-- A table that holds only what reading its texts gives does so after a search too. -/
theorem PatternCache.find_read (cache : PatternCache) {table : PatternTable} (pattern : String)
    (read : ∀ entry ∈ table, PathPattern.parse cache.options entry.1 = .ok entry.2) :
    ∀ entry ∈ (cache.find table pattern).2, PathPattern.parse cache.options entry.1 = .ok entry.2 := by
  unfold find
  split
  · exact read
  · split
    · exact read
    · split
      · exact read
      next made parsed =>
        intro entry member
        rcases List.mem_append.mp member with known | new
        · exact read entry known
        · obtain rfl := List.mem_singleton.mp new
          exact parsed

theorem PatternCache.matchPattern_read (cache : PatternCache) {table : PatternTable}
    (request : Request) (pattern : String)
    (read : ∀ entry ∈ table, PathPattern.parse cache.options entry.1 = .ok entry.2) :
    ∀ entry ∈ (cache.matchPattern table request pattern).2,
      PathPattern.parse cache.options entry.1 = .ok entry.2 := by
  unfold matchPattern
  split
  · exact read
  · exact cache.find_read pattern read

namespace Store

variable {caches laterCaches : List PatternCache} {store later : Store}

theorem sound_start : Sound [] {} where
  numbered := by simp
  distinct := by simp
  read := by simp
  made := by simp

/-- Keeping a bound router leaves the tables alone. -/
theorem Sound.keep (sound : Sound caches store) {bound : BoundRouter} {request probe : Request}
    {chain : Chain} (made : bound.IsBoundIn request probe chain) (known : bound.KnownTo caches) :
    Sound caches (store.keep bound).2 where
  numbered := sound.numbered
  distinct := sound.distinct
  read := sound.read
  made := by
    intro other member
    rcases List.mem_append.mp member with earlier | new
    · exact sound.made other earlier
    · obtain rfl := List.mem_singleton.mp new
      exact ⟨known, request, probe, chain, made⟩

/-- A new cache gets a new table, which is empty. -/
theorem Sound.addCache (sound : Sound caches store) (router : Router) (limit : UInt64) :
    Sound (caches ++ (store.addCache router limit).1.toList) (store.addCache router limit).2 := by
  unfold Store.addCache
  cases router.patternOptions? with
  | none =>
    simp only [Option.toList_none, List.append_nil]
    exact sound
  | some options =>
    simp only [Option.toList_some]
    have apart : ∀ cache ∈ caches, cache.table ≠ store.tables.length := by
      intro cache member same
      have numbered := sound.numbered cache member
      omega
    constructor
    case numbered =>
      intro cache member
      simp only [List.length_append, List.length_singleton]
      rcases List.mem_append.mp member with known | new
      · have numbered := sound.numbered cache known
        omega
      · obtain rfl := List.mem_singleton.mp new
        exact Nat.lt_succ_self _
    case distinct =>
      intro cache member other otherMember same
      rcases List.mem_append.mp member with known | new
      · rcases List.mem_append.mp otherMember with otherKnown | otherNew
        · exact sound.distinct cache known other otherKnown same
        · obtain rfl := List.mem_singleton.mp otherNew
          exact absurd same (apart cache known)
      · obtain rfl := List.mem_singleton.mp new
        rcases List.mem_append.mp otherMember with otherKnown | otherNew
        · exact absurd same.symm (apart other otherKnown)
        · exact (List.mem_singleton.mp otherNew).symm
    case read =>
      intro cache member
      rcases List.mem_append.mp member with known | new
      · have unchanged : Store.table { store with tables := store.tables ++ [[]] } cache.table =
            store.table cache.table := by
          simp only [Store.table, List.getD_eq_getElem?_getD,
            List.getElem?_append_left (sound.numbered cache known)]
        rw [unchanged]
        exact sound.read cache known
      · obtain rfl := List.mem_singleton.mp new
        simp [Store.table]
    case made =>
      intro bound member
      obtain ⟨known, made⟩ := sound.made bound member
      exact ⟨fun cache same => List.mem_append_left _ (known cache same), made⟩

/-- A match by the table of one cache leaves those of the others alone. -/
theorem Sound.matchStored (sound : Sound caches store) {cache : PatternCache}
    (known : cache ∈ caches) (request : Request) (pattern : String) :
    Sound caches (cache.matchStored store request pattern).2 := by
  have stored : (cache.matchStored store request pattern).2 =
      store.setTable cache.table
        (cache.matchPattern (store.table cache.table) request pattern).2 := rfl
  rw [stored]
  constructor
  · intro other member
    rw [setTable, List.length_set]
    exact sound.numbered other member
  · exact sound.distinct
  · intro other member
    rw [table_setTable store _ _ _ (sound.numbered cache known)]
    by_cases same : other.table = cache.table
    · obtain rfl := sound.distinct other member cache known same
      rw [if_pos rfl]
      exact other.matchPattern_read request pattern (sound.read other member)
    · rw [if_neg same]
      exact sound.read other member
  · exact sound.made

/-- Every change keeps the store sound. -/
theorem Step.sound (step : Step caches store laterCaches later) (sound : Sound caches store) :
    Sound laterCaches later := by
  cases step with
  | record journal => exact ⟨sound.numbered, sound.distinct, sound.read, sound.made⟩
  | keep made known => exact sound.keep made known
  | addCache router limit => exact sound.addCache router limit
  | matchStored known request pattern => exact sound.matchStored known request pattern

/-- A store stays sound however it evolves. -/
theorem Evolves.sound (evolves : Evolves caches store laterCaches later)
    (sound : Sound caches store) : Sound laterCaches later := by
  induction evolves with
  | refl => exact sound
  | step _ last ih => exact last.sound ih

end Store

end RouteProbe
