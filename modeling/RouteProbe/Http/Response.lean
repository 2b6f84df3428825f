import RouteProbe.Http.Headers

/-! # Responses -/

namespace RouteProbe

/-- Whether a number can be the status of a response. -/
def isStatus (status : Nat) : Bool := 100 ≤ status && status ≤ 999

/-- A response. -/
structure Response where
  status : Nat := 200
  headers : Headers := {}
  body : List UInt8 := []
  deriving DecidableEq, Repr

namespace Response

/-- Puts one field in the place of all of its name, unless its value cannot stand in a header. -/
def insertText (response : Response) (name value : String) : Response :=
  match HeaderValue.ofText? value with
  | some value => { response with headers := response.headers.insert name value }
  | none => response

/-- A response with a body of the given type. -/
def ofBody (status : Nat) (contentType body : String) : Response :=
  insertText { status, body := Text.octets body } "content-type" contentType

theorem status_ofBody (status : Nat) (contentType body : String) :
    (ofBody status contentType body).status = status := by
  unfold ofBody insertText
  split <;> rfl

theorem body_ofBody (status : Nat) (contentType body : String) :
    (ofBody status contentType body).body = Text.octets body := by
  unfold ofBody insertText
  split <;> rfl

/-- A response in plain text. -/
def ofText (status : Nat) (message : String) : Response :=
  ofBody status "text/plain; charset=utf-8" message

def text? (response : Response) : Option String := Text.ofOctets? response.body

def header? (response : Response) (name : String) : Option String := do
  response.headers.text? (← headerName? name)

def hasHeader (response : Response) (name : String) : Bool :=
  match headerName? name with
  | some name => response.headers.contains name
  | none => false

end Response

end RouteProbe
