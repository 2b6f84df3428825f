import RouteProbe.Request.Basic

/-! # Probes

Routers are asked about a copy of the request, so that nothing they do to its attributes shows on
the request itself. The copy starts with the attributes of the request; its other parts are those of
the request throughout.
-/

namespace RouteProbe

/-- A request seen through attributes of its own (`AttributesPreservingRequest`). -/
structure IsolatedRequest where
  base : Request
  attributes : Attributes

namespace IsolatedRequest

def gather (request : Request) : Attributes :=
  request.attributeNames.foldl
    (fun gathered name =>
      match request.attribute? name with
      | some value => gathered.insert name value
      | none => gathered)
    .empty

/-- Isolates a request, asking routers to suppress logging if wanted. -/
def of (request : Request) (suppressed : Bool) : IsolatedRequest where
  base := request
  attributes :=
    if suppressed then (gather request).insert AttributeName.suppressLogging (.flag true)
    else gather request

def toRequest (isolated : IsolatedRequest) : Request :=
  { isolated.base with attributes := isolated.attributes }

/-- What others did to the request they saw. -/
def update (isolated : IsolatedRequest) (seen : Request) : IsolatedRequest :=
  { isolated with attributes := seen.attributes }

def describe (isolated : IsolatedRequest) : String :=
  "AttributesPreservingRequest \x7b method: " ++ isolated.base.method.text ++
    ", uri: " ++ isolated.base.uri.toText ++
    ", attributes: " ++ Attributes.describe isolated.attributes ++ " \x7d"

end IsolatedRequest

/-- The copy of a request that routers are asked about. A lookup path left on the request is not
passed on, since it may be another router's. -/
def Request.probe (request : Request) (suppressed : Bool) : Request :=
  (IsolatedRequest.of request suppressed).toRequest.removeAttribute AttributeName.lookupPath

end RouteProbe
