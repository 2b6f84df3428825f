/-! # Values of documents

Settings and error reports are written as documents. Whatever the notation, a document spells a
value: a text, a flag, a number, a list, or a record of named values. A record may also be written
as a list of its fields in their declared order.
-/

namespace RouteProbe.Document

/-- What a document spells. -/
inductive Value
  | null
  | flag (value : Bool)
  | natural (value : Nat)
  /-- A negative or fractional number, as it is spelled. -/
  | otherNumber (literal : String)
  | text (value : String)
  /-- A text, or a record with a name, whose octets and escapes spell no characters. -/
  | garbled
  | list (items : List Value)
  | record (fields : List (String × Value))
  deriving Repr, Inhabited

namespace Value

def flag? : Value → Option Bool
  | flag value => some value
  | _ => none

/-- The natural number below 2⁶⁴ that a value is. -/
def word? : Value → Option UInt64
  | natural value => if value < UInt64.size then some (UInt64.ofNat value) else none
  | _ => none

def text? : Value → Option String
  | text value => some value
  | _ => none

/-- The list of texts that a value is. -/
def texts? : Value → Option (List String)
  | list items => items.mapM text?
  | _ => none

/-- The values of the declared names among named values. A declared name may occur only once, and
other names only in an `extensible` record. -/
def takeFields (declared : List String) (extensible : Bool) (fields : List (String × Value)) :
    Option (List (Option Value)) :=
  let known := fields.filter fun field => field.1 ∈ declared
  if (extensible || known.length == fields.length) && decide (known.map (·.1)).Nodup then
    some (declared.map fun name => known.lookup name)
  else none

/-- The values of the declared fields of a record, missing ones left out. An `extensible` record
may have fields beside those; a record written as a list has none. -/
def fields? (declared : List String) (extensible : Bool) : Value → Option (List (Option Value))
  | record fields => takeFields declared extensible fields
  | list items =>
    if items.length ≤ declared.length then
      some (items.map some ++ List.replicate (declared.length - items.length) none)
    else none
  | _ => none

end Value

end RouteProbe.Document
