import RouteProbe.Lookup.Introspector
import RouteProbe.Pipeline.Envelope
import RouteProbe.Pipeline.Stage
import RouteProbe.Text.Blank

/-! # The stage that applies cross-origin policies

The stage looks the policy of a request with an origin up. It answers preflights itself: with
everything the policy allows, or with a refusal of the first thing it does not. For other requests
it lets the rest run, and tells the client in the response what it may see.
-/

namespace RouteProbe

namespace HeaderName

def origin : String := "origin"
def vary : String := "vary"
def requestMethod : String := "access-control-request-method"
def requestHeaders : String := "access-control-request-headers"
def allowOrigin : String := "access-control-allow-origin"
def allowMethods : String := "access-control-allow-methods"
def allowHeaders : String := "access-control-allow-headers"
def allowCredentials : String := "access-control-allow-credentials"
def exposeHeaders : String := "access-control-expose-headers"
def maxAge : String := "access-control-max-age"

end HeaderName

namespace CorsPolicy

/-- Names in order with commas between them, as a header value; of no names there is none. -/
def joined? (names : NameSet) : Option HeaderValue :=
  if names.names = [] then none else HeaderValue.ofText? (Text.join ", " names.names)

/-- Puts a field into headers, if there is a value for it. -/
def insertSome (headers : Headers) (name : String) : Option HeaderValue → Headers
  | some value => headers.insert name value
  | none => headers

/-- Headers that tell a client that its origin is admitted. -/
def insertOrigin (policy : CorsPolicy) (origin : String) (headers : Headers) : Headers :=
  let headers := insertSome headers HeaderName.allowOrigin (policy.origins.header? origin)
  if policy.credentials then
    insertSome headers HeaderName.allowCredentials (HeaderValue.ofText? "true")
  else headers

/-- The answer to a preflight that asks for nothing but what is allowed. -/
def approval (policy : CorsPolicy) (origin : String) : Response :=
  let headers := policy.insertOrigin origin {}
  let headers := insertSome headers HeaderName.allowMethods (joined? policy.methods)
  let headers := insertSome headers HeaderName.allowHeaders (joined? policy.headers)
  let headers := insertSome headers HeaderName.maxAge
    (policy.maxAge.bind fun seconds => HeaderValue.ofText? (toString seconds))
  let headers := insertSome headers HeaderName.vary
    (HeaderValue.ofText? "Origin, Access-Control-Request-Method, Access-Control-Request-Headers")
  { status := 204, headers }

/-- What a preflight asks for beyond what a policy allows. -/
inductive Refusal
  | origin
  | method
  | header (name : String)
  deriving DecidableEq, Repr

def Refusal.message : Refusal → String
  | origin => "Origin not allowed"
  | method => "Method not allowed"
  | header name => s!"Header '{name}' not allowed"

/-- The method that a preflight asks for, if its header can be read as one. -/
def requestedMethod? (headers : Headers) : Option Method :=
  (headers.text? HeaderName.requestMethod).bind Method.parse?

/-- The headers that a preflight asks for, if their list can be read. -/
def requestedHeaders (headers : Headers) : List String :=
  match headers.text? HeaderName.requestHeaders with
  | some list => ((Text.pieces ',' list).map Text.trim).filter (· ≠ "")
  | none => []

/-- The first thing that a preflight asks for and a policy does not allow. -/
def refusal? (policy : CorsPolicy) (headers : Headers) (origin : String) : Option Refusal :=
  if !policy.origins.admits origin then some .origin
  else if (requestedMethod? headers).any fun method => !policy.allowsMethod method then
    some .method
  else
    ((requestedHeaders headers).find? fun header => !policy.allowsHeader header).map fun header =>
      .header (Text.lowercase header)

/-- The answer to a preflight. -/
def answerPreflight (policy : CorsPolicy) (headers : Headers) (origin : String) : Response :=
  match policy.refusal? headers origin with
  | some refusal => .ofText 403 refusal.message
  | none => policy.approval origin

/-- The response to a request with this origin, with what the client may see of it. -/
def decorate (policy : CorsPolicy) (origin : String) (response : Response) : Response :=
  if policy.origins.admits origin then
    let headers := policy.insertOrigin origin response.headers
    let headers := insertSome headers HeaderName.exposeHeaders (joined? policy.exposed)
    { response with
      headers := insertSome headers HeaderName.vary (HeaderValue.ofText? "Origin") }
  else response

end CorsPolicy

/-- Whether a request asks for permission to send another. -/
def Request.isPreflight (request : Request) : Bool :=
  request.method == .options && request.headers.contains HeaderName.origin &&
    request.headers.contains HeaderName.requestMethod

/-- Looks the policy of a request up. -/
abbrev PolicyLookup := Store → Request → Except RoutingError (Option CorsPolicy) × Store

/-- The lookup of a source that leaves no traces. -/
def PolicyLookup.ofSource (source : CorsSource) : PolicyLookup :=
  fun store request => (source request, store)

/-- The stage that applies the policies of a lookup. -/
def corsStage {σ : Type} (lookup : PolicyLookup) : Stage σ where
  name := "cors"
  process := fun next visit =>
    match visit.request.headers.text? HeaderName.origin with
    | none => next visit
    | some origin =>
      let (found, store) := lookup visit.store visit.request
      let visit := { visit with store }
      match found with
      | .error error =>
        (.done (.ofError error),
          visit.notify (.policyLookupFailed visit.request.path origin error.message))
      | .ok none => next visit
      | .ok (some policy) =>
        if visit.request.isPreflight then
          let response := policy.answerPreflight visit.request.headers origin
          (.done response,
            visit.notify (.preflightAnswered visit.request.path origin response.status))
        else
          let (outcome, visit) := next visit
          (outcome.map (policy.decorate origin), visit)

end RouteProbe
