import RouteProbe.Request.Basic
import RouteProbe.RoutingError

/-! # Chains

A router answers a request with a chain: the handler of the request, and interceptors that run
around it. Any of them may be a source of cross-origin policies. The first interceptor that is one
decides, whatever it answers; the handler decides only if no interceptor is. Sources are functions
of the request and leave no trace in the journal.
-/

namespace RouteProbe

/-- Looks the policy of a request up; there may be none, and the lookup may fail. -/
abbrev CorsSource := Request → Except RoutingError (Option CorsPolicy)

/-- What handles a request in the end. -/
structure Handler where
  name : String
  cors : Option CorsSource := none

def Handler.operation (name : String) (policy : Option CorsPolicy := none) : Handler :=
  ⟨name, policy.map fun policy _ => .ok (some policy)⟩

/-- A step around a handler. -/
structure Interceptor where
  name : String
  cors : Option CorsSource := none

/-- The interceptor of a route that declares a policy. -/
def Interceptor.ofPolicy (policy : CorsPolicy) : Interceptor :=
  ⟨"cors", some fun _ => .ok (some policy)⟩

/-- A handler with the interceptors around it, in the order they run. -/
structure Chain where
  handler : Handler
  interceptors : List Interceptor := []

namespace Chain

def append (chain : Chain) (interceptor : Interceptor) : Chain :=
  { chain with interceptors := chain.interceptors ++ [interceptor] }

/-- Adds interceptors behind all others, in their order. -/
def appendAll (chain : Chain) (interceptors : List Interceptor) : Chain :=
  { chain with interceptors := chain.interceptors ++ interceptors }

def prepend (chain : Chain) (interceptor : Interceptor) : Chain :=
  { chain with interceptors := interceptor :: chain.interceptors }

/-- The source that decides on the policy of a chain. -/
def corsSource? (chain : Chain) : Option CorsSource :=
  (chain.interceptors.findSome? (·.cors)).or chain.handler.cors

def corsPolicy (chain : Chain) (request : Request) : Except RoutingError (Option CorsPolicy) :=
  match chain.corsSource? with
  | some source => source request
  | none => .ok none

end Chain

end RouteProbe
