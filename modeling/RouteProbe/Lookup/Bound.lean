import RouteProbe.Lookup.PatternTable

/-! # Bound routers

A bound router remembers the path under which a router took a request. Patterns can be matched
against that path later on, on whatever request is at hand: the path is put on the request for the
match, and what it displaced is put back.

What outlives a single lookup is kept in a store: the bound routers left on requests, the pattern
tables, and the journal. Numbers in it stand for shared references to them.
-/

namespace RouteProbe

/-- A router together with the path it took a request by (`LookupPathMatchableRouter`). -/
inductive BoundRouter
  /-- A router that matches normal forms. -/
  | resolved (router : Router) (matcher : Matcher) (path : String)
  /-- A router that matches split request paths, with its patterns kept in a table. -/
  | parsed (cache : PatternCache) (path : RequestPath)

/-- What outlives a single lookup. -/
structure Store where
  bound : List BoundRouter := []
  tables : List PatternTable := []
  journal : Journal := []

namespace Store

def record (store : Store) (entries : Journal) : Store :=
  { store with journal := store.journal ++ entries }

def notify (store : Store) (notice : Notice) : Store := store.record [.notice notice]

def table (store : Store) (number : Nat) : PatternTable := store.tables.getD number []

def setTable (store : Store) (number : Nat) (table : PatternTable) : Store :=
  { store with tables := store.tables.set number table }

/-- Keeps the patterns of a router that matches split request paths in a new table. -/
def addCache (store : Store) (router : Router) (limit : UInt64) : Option PatternCache × Store :=
  match router.patternOptions? with
  | none => (none, store)
  | some options =>
    (some ⟨router, options, limit, store.tables.length⟩,
      { store with tables := store.tables ++ [[]] })

/-- Keeps a bound router, and says under which number. -/
def keep (store : Store) (bound : BoundRouter) : Nat × Store :=
  (store.bound.length, { store with bound := store.bound ++ [bound] })

end Store

/-- Matches a pattern by the table of a cache. -/
def PatternCache.matchStored (cache : PatternCache) (store : Store) (request : Request)
    (pattern : String) : Except RoutingError (Option PathMatch) × Store :=
  let (result, table) := cache.matchPattern (store.table cache.table) request pattern
  (result, store.setTable cache.table table)

namespace BoundRouter

/-- Binds a router to a normal form. -/
def resolve? (router : Router) (path : String) : Except RoutingError BoundRouter :=
  match router.matcher with
  | some matcher => .ok (.resolved router matcher path)
  | none => .error (.notMatchable router.name)

def router : BoundRouter → Router
  | resolved router _ _ => router
  | parsed cache _ => cache.router

def lookup : BoundRouter → LookupPath
  | resolved _ _ path => .resolved path
  | parsed _ path => .parsed path

/-- How patterns are read, if the router says so. -/
def options? : BoundRouter → Option PatternOptions
  | resolved _ matcher _ => matcher.options
  | parsed cache _ => some cache.options

/-- Matches a pattern against the path on the request. -/
def matchPattern (bound : BoundRouter) (store : Store) (request : Request) (pattern : String) :
    Except RoutingError (Option PathMatch) × Store :=
  match bound with
  | resolved _ matcher _ => (matcher.matchPattern request pattern, store)
  | parsed cache _ => cache.matchStored store request pattern

/-- Matches a pattern against the path that the router is bound to, and gives the request back as it
was. -/
def matchBound (bound : BoundRouter) (store : Store) (request : Request) (pattern : String) :
    Except RoutingError (Option PathMatch) × Store × Request :=
  let name := bound.lookup.attributeName
  let displaced := request.attribute? name
  let carrying := request.setAttribute name bound.lookup.attributeValue
  let (result, store) := bound.matchPattern store carrying (fullPattern pattern)
  (result, store, carrying.restoreAttribute name displaced)

def describe (bound : BoundRouter) : String :=
  "LookupPathMatchableRouter \x7b router: " ++ Text.quoted bound.router.name ++
    ", lookup_path: " ++ bound.lookup.describe ++ " \x7d"

end BoundRouter

end RouteProbe
