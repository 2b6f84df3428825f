import RouteProbe.Pipeline.Envelope

/-! # Expectations of responses

What someone who sends a request may expect of the response, and whether it is met.
-/

namespace RouteProbe

/-- Something expected of a response. -/
inductive Expectation
  | status (status : Nat)
  | header (name value : String)
  | noHeader (name : String)
  /-- The body is an envelope with this code. -/
  | errorCode (code : String)
  deriving DecidableEq, Repr

/-- Whether a response meets an expectation. -/
def Response.meets (response : Response) : Expectation → Bool
  | .status status => response.status == status
  | .header name value => response.header? name == some value
  | .noHeader name => !response.hasHeader name
  | .errorCode code =>
    (ErrorEnvelope.ofResponse? response).any fun envelope => envelope.code == code

end RouteProbe
