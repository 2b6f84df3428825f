import RouteProbe.Request.Basic

/-! # Requests in the making

A draft holds a request in the words it is described in. Building it names the first thing that
cannot be said in a request: header fields are looked at before the target, in the order they were
added.
-/

namespace RouteProbe

/-- A request as it is described. -/
structure RequestDraft where
  method : Method := .get
  target : String
  contextPath : String := ""
  headers : List (String × String) := []
  attributes : List (String × AttributeValue) := []
  body : List UInt8 := []

/-- Why a draft describes no request. -/
inductive DraftFault
  | badHeader (name value : String)
  | badTarget
  deriving DecidableEq, Repr

def DraftFault.message? : DraftFault → Option String
  | badHeader name value => s!"invalid test request: bad header {name}: " ++ Text.quoted value
  | badTarget => none

namespace RequestDraft

def withHeader (draft : RequestDraft) (name value : String) : RequestDraft :=
  { draft with headers := draft.headers ++ [(name, value)] }

def withOrigin (draft : RequestDraft) (origin : String) : RequestDraft :=
  draft.withHeader "origin" origin

/-- Makes a request ask whether its origin may send another one with the given method. -/
def asPreflight (draft : RequestDraft) (origin : String) (method : Method) : RequestDraft :=
  { (draft.withOrigin origin).withHeader "access-control-request-method" method.text with
    method := .options }

def buildHeaders : List (String × String) → Headers → Except DraftFault Headers
  | [], headers => .ok headers
  | (name, value) :: rest, headers =>
    match headerName? name, HeaderValue.ofText? value with
    | some name, some value => buildHeaders rest (headers.append name value)
    | _, _ => .error (.badHeader name value)

def build (draft : RequestDraft) : Except DraftFault Request := do
  let headers ← buildHeaders draft.headers {}
  match Uri.parse? draft.target with
  | none => throw .badTarget
  | some uri =>
    return {
      method := draft.method
      uri
      headers
      contextPath := draft.contextPath
      attributes := NameMap.ofList draft.attributes
      body := draft.body }

end RequestDraft

end RouteProbe
