import RouteProbe.Document.Json
import RouteProbe.Http.Response
import RouteProbe.RoutingError

/-! # Error envelopes

A response that reports an error carries an envelope: a document with the code, the message and the
category of the error. What else a reader finds in an envelope is ignored.
-/

namespace RouteProbe

open Document

/-- What a client is told about an error. -/
structure ErrorEnvelope where
  code : String
  message : String
  category : ErrorCategory
  deriving DecidableEq, Repr

/-- What a client is told about a routing error. -/
def RoutingError.envelope (error : RoutingError) : ErrorEnvelope :=
  ⟨error.code, error.message, error.category⟩

/-- The category that a value names, by its name or as the one name of a record that holds null. -/
def ErrorCategory.ofValue? : Value → Option ErrorCategory
  | .text name => ofName? name
  | .record [(name, .null)] => ofName? name
  | _ => none

namespace ErrorEnvelope

def detail (envelope : ErrorEnvelope) : Value :=
  .record [
    ("code", .text envelope.code),
    ("message", .text envelope.message),
    ("category", .text envelope.category.name)]

def toValue (envelope : ErrorEnvelope) : Value := .record [("error", envelope.detail)]

/-- The fields of an error that a value spells. -/
def ofDetail? (value : Value) : Option ErrorEnvelope := do
  match ← value.fields? ["code", "message", "category"] true with
  | [some code, some message, some category] =>
    return ⟨← code.text?, ← message.text?, ← ErrorCategory.ofValue? category⟩
  | _ => none

/-- The envelope that a value spells. -/
def ofValue? (value : Value) : Option ErrorEnvelope := do
  match ← value.fields? ["error"] true with
  | [some detail] => ofDetail? detail
  | _ => none

def toJson (envelope : ErrorEnvelope) : String := Json.render envelope.toValue

/-- The envelope that the body of a response spells. -/
def ofResponse? (response : Response) : Option ErrorEnvelope :=
  (Json.read? response.body).bind ofValue?

end ErrorEnvelope

/-- The response that reports an error. -/
def Response.ofError (error : RoutingError) : Response :=
  .ofBody error.status "application/json" error.envelope.toJson

end RouteProbe
