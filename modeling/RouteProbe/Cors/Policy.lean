import RouteProbe.Http.Headers
import RouteProbe.NameMap
import RouteProbe.Text.Casing

/-! # Cross-origin policies

A policy says which origins may use a route from scripts, with which methods and headers, which
response headers they may see, whether credentials are sent along, and how long the answer to a
preflight may be kept. Policies are built from the default one by a row of settings.
-/

namespace RouteProbe

/-- The origins a policy admits. -/
inductive AllowedOrigins
  | any
  | listed (origins : NameSet)
  deriving DecidableEq, Repr

namespace AllowedOrigins

def admits (origin : String) : AllowedOrigins → Bool
  | any => true
  | listed origins => origins.contains origin

/-- The value that tells a client it is admitted: a star, or its own origin if a header can hold
it. -/
def header? (origin : String) : AllowedOrigins → Option HeaderValue
  | any => HeaderValue.ofText? "*"
  | listed origins => if origins.contains origin then HeaderValue.ofText? origin else none

end AllowedOrigins

/-- A cross-origin policy; header names are in lowercase. -/
structure CorsPolicy where
  origins : AllowedOrigins := .listed .empty
  methods : NameSet := NameSet.ofList ["GET", "HEAD", "POST"]
  headers : NameSet := NameSet.ofList ["*"]
  exposed : NameSet := .empty
  credentials : Bool := false
  /-- How many whole seconds the answer to a preflight may be kept. A fraction of a second, which no
  header shows, is left out. -/
  maxAge : Option Nat := some 1800
  deriving DecidableEq, Repr

namespace CorsPolicy

instance : Inhabited CorsPolicy := ⟨{}⟩

def allowsMethod (policy : CorsPolicy) (method : Method) : Bool :=
  policy.methods.contains method.text

/-- Whether a request header is allowed, by name or by a star. -/
def allowsHeader (policy : CorsPolicy) (header : String) : Bool :=
  policy.headers.contains "*" || policy.headers.contains (Text.lowercase header)

end CorsPolicy

/-- One setting of a policy under construction. -/
inductive CorsSetting
  | anyOrigin
  | origin (origin : String)
  | methods (methods : List Method)
  | headers (headers : List String)
  | expose (headers : List String)
  | credentials (allow : Bool)
  | maxAge (seconds : Option Nat)
  deriving DecidableEq, Repr

namespace CorsPolicy

/-- Applies one setting. Origins add up until any origin is admitted; every other setting replaces
what was set before. -/
def set (policy : CorsPolicy) : CorsSetting → CorsPolicy
  | .anyOrigin => { policy with origins := .any }
  | .origin origin =>
    match policy.origins with
    | .any => policy
    | .listed origins => { policy with origins := .listed (origins.insert origin ()) }
  | .methods methods => { policy with methods := NameSet.ofList (methods.map (·.text)) }
  | .headers headers => { policy with headers := NameSet.ofList (headers.map Text.lowercase) }
  | .expose headers => { policy with exposed := NameSet.ofList (headers.map Text.lowercase) }
  | .credentials allow => { policy with credentials := allow }
  | .maxAge seconds => { policy with maxAge := seconds }

def build (settings : List CorsSetting) : CorsPolicy := settings.foldl set {}

end CorsPolicy

end RouteProbe
