import RouteProbe.Text.Quoted

/-! # The journal

What happens besides the answers: notices for the people who run the program, and the calls of
routers that count theirs. A notice is a cause with its fields; its level, its wording and the
names of its fields are derived from that.
-/

namespace RouteProbe

/-- How much a notice matters, least first. -/
inductive NoticeLevel
  | trace
  | debug
  | info
  | warn
  deriving DecidableEq, Repr

/-- One field of a notice. -/
inductive NoticeField
  | text (value : String)
  | number (value : Nat)
  | flag (value : Bool)
  deriving DecidableEq, Repr

/-- Something worth telling the people who run the program. -/
inductive Notice
  /-- A settings variable has the right prefix, but names no setting. -/
  | ignoredOverride (name : String)
  /-- More variables were read from a file. -/
  | loadedEnvironment (path : String)
  | noRouteMatched (router path : String)
  | mappedRequest (router path pattern handler : String)
  | discoveredRouters (routers : List String)
  | usingDefaultRouters (kinds : List String)
  | ignoredFailure (router error : String)
  | introspectionFailed (method path error : String)
  | cachePopulated (path : String) (matched : Bool)
  | policyLookupFailed (path origin error : String)
  | preflightAnswered (path origin : String) (status : Nat)
  deriving DecidableEq, Repr

namespace Notice

def level : Notice → NoticeLevel
  | noRouteMatched .. | cachePopulated .. => .trace
  | ignoredOverride _ | loadedEnvironment _ | mappedRequest .. | ignoredFailure ..
  | preflightAnswered .. => .debug
  | discoveredRouters _ | usingDefaultRouters _ => .info
  | introspectionFailed .. | policyLookupFailed .. => .warn

def wording : Notice → String
  | ignoredOverride _ => "Ignoring unknown introspection override"
  | loadedEnvironment _ => "Loaded .env file"
  | noRouteMatched .. => "No route matched"
  | mappedRequest .. => "Mapped request"
  | discoveredRouters _ => "Discovered routers"
  | usingDefaultRouters _ => "No routers registered, using default routers"
  | ignoredFailure .. => "Ignoring router failure during introspection"
  | introspectionFailed .. => "Route introspection failed"
  | cachePopulated .. => "Introspection cache populated"
  | policyLookupFailed .. => "CORS policy lookup failed"
  | preflightAnswered .. => "CORS preflight answered"

/-- The fields of a notice, by name. -/
def fields : Notice → List (String × NoticeField)
  | ignoredOverride name => [("var", .text name)]
  | loadedEnvironment path => [("path", .text path)]
  | noRouteMatched router path => [("router", .text router), ("path", .text path)]
  | mappedRequest router path pattern handler =>
    [("router", .text router), ("path", .text path), ("pattern", .text pattern),
      ("handler", .text handler)]
  | discoveredRouters routers =>
    [("count", .number routers.length), ("routers", .text (Text.quotedList routers))]
  | usingDefaultRouters kinds => [("kinds", .text (Text.quotedList kinds))]
  | ignoredFailure router error => [("router", .text router), ("error", .text error)]
  | introspectionFailed method path error =>
    [("method", .text method), ("path", .text path), ("error", .text error)]
  | cachePopulated path matched => [("path", .text path), ("matched", .flag matched)]
  | policyLookupFailed path origin error =>
    [("path", .text path), ("origin", .text origin), ("error", .text error)]
  | preflightAnswered path origin status =>
    [("path", .text path), ("origin", .text origin), ("status", .number status)]

end Notice

/-- One entry of the journal. -/
inductive JournalEntry
  /-- A router that counts its calls was asked to resolve a request. -/
  | call (router : String)
  | notice (notice : Notice)
  deriving DecidableEq, Repr

/-- Entries in the order of their events. -/
abbrev Journal := List JournalEntry

namespace Journal

def calls (journal : Journal) : List String :=
  journal.filterMap fun | .call router => some router | .notice _ => none

/-- The notices, in order. -/
def notices (journal : Journal) : List Notice :=
  journal.filterMap fun | .call _ => none | .notice notice => some notice

end Journal

end RouteProbe
