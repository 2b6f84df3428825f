import RouteProbe.Route.Router

/-! # Pattern tables

A router that matches split request paths reads the same patterns again and again. A pattern table
keeps those that have been read. It never forgets one, and it refuses new ones when it is full.
-/

namespace RouteProbe

/-- Patterns that have been read, by their text, in the order they were added. -/
abbrev PatternTable := List (String × PathPattern)

/-- A router with its pattern cache (`PathPatternMatchableRouter`): how its patterns are read, and
how many of them are kept. -/
structure PatternCache where
  router : Router
  options : PatternOptions
  limit : UInt64
  /-- The number of the table in the store. -/
  table : Nat

namespace PatternCache

def full (cache : PatternCache) (pattern : String) : RoutingError :=
  .illegalState
    (s!"pattern cache of router '{cache.router.name}' is full ({cache.limit.toNat} entries); " ++
      s!"cannot cache '{pattern}'") none

/-- The pattern with this text, from the table or read and added to it. -/
def find (cache : PatternCache) (table : PatternTable) (pattern : String) :
    Except RoutingError PathPattern × PatternTable :=
  match table.lookup pattern with
  | some known => (.ok known, table)
  | none =>
    if table.length ≥ cache.limit.toNat then (.error (cache.full pattern), table)
    else match PathPattern.parse cache.options pattern with
      | .error error => (.error error, table)
      | .ok read => (.ok read, table ++ [(pattern, read)])

/-- Whether the split path on a request matches a pattern. -/
def matchPattern (cache : PatternCache) (table : PatternTable) (request : Request)
    (pattern : String) : Except RoutingError (Option PathMatch) × PatternTable :=
  match request.requireParsedPath with
  | .error error => (.error error, table)
  | .ok path =>
    let (found, table) := cache.find table pattern
    (found.map fun pattern => pattern.matchPath? path.within, table)

def describe (cache : PatternCache) (table : PatternTable) : String :=
  "PathPatternMatchableRouter \x7b router: " ++ Text.quoted cache.router.name ++
    ", parser: PathPatternParser \x7b case_sensitive: " ++ toString cache.options.caseSensitive ++
    ", match_optional_trailing_separator: " ++ toString cache.options.optionalTrailing ++
    " \x7d, cached_patterns: " ++ toString table.length ++
    ", limit: " ++ toString cache.limit.toNat ++ " \x7d"

end PatternCache

end RouteProbe
