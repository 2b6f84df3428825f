import RouteProbe.Http.Method
import RouteProbe.Text.Casing
import RouteProbe.Text.Octets

/-! # Header fields

A header value is any row of octets without control octets. It can be read as text only if all its
octets are visible ASCII, blanks or tabs. Several fields may share a name; looking one up finds the
first.
-/

namespace RouteProbe

/-- Whether a header value may hold the octet. -/
def HeaderValue.allows (octet : UInt8) : Bool := (octet ≥ 32 && octet != 127) || octet == 9

/-- A header value. -/
structure HeaderValue where
  octets : List UInt8
  legal : octets.all HeaderValue.allows = true
  deriving DecidableEq, Repr

namespace HeaderValue

/-- The header value with these octets. -/
def ofOctets? (octets : List UInt8) : Option HeaderValue :=
  if legal : octets.all allows = true then some ⟨octets, legal⟩ else none

/-- The header value that spells the text in UTF-8. -/
def ofText? (text : String) : Option HeaderValue := ofOctets? (Text.octets text)

def isReadable (octet : UInt8) : Bool := (octet ≥ 32 && octet < 127) || octet == 9

def text? (value : HeaderValue) : Option String :=
  if value.octets.all isReadable then
    some (String.ofList (value.octets.map fun octet => Char.ofNat octet.toNat))
  else none

end HeaderValue

/-- The lowercase form in which a header name is stored, if it is a name. -/
def headerName? (name : String) : Option String :=
  if Http.isToken name && name.utf8ByteSize < 65536 then some (Text.lowercaseAscii name) else none

/-- The fields of a message in the order they were added, names in lowercase. -/
structure Headers where
  fields : List (String × HeaderValue) := []
  deriving DecidableEq, Repr

namespace Headers

def append (headers : Headers) (name : String) (value : HeaderValue) : Headers :=
  ⟨headers.fields ++ [(name, value)]⟩

def insert (headers : Headers) (name : String) (value : HeaderValue) : Headers :=
  ⟨headers.fields.filter (fun field => field.1 ≠ name) ++ [(name, value)]⟩

/-- The values under a name, in the order they were added. -/
def getAll (headers : Headers) (name : String) : List HeaderValue :=
  (headers.fields.filter fun field => field.1 = name).map (·.2)

def get? (headers : Headers) (name : String) : Option HeaderValue :=
  (headers.fields.find? fun field => field.1 = name).map (·.2)

def text? (headers : Headers) (name : String) : Option String :=
  (headers.get? name).bind HeaderValue.text?

def contains (headers : Headers) (name : String) : Bool := (headers.get? name).isSome

/-- The fields sorted by name, those of one name in the order they were added. -/
def sorted (headers : Headers) : List (String × HeaderValue) :=
  headers.fields.mergeSort fun first second => decide (first.1 ≤ second.1)

end Headers

end RouteProbe
