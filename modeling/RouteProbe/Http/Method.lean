/-! # Tokens and methods

HTTP writes methods and header names as tokens: non-empty rows of letters, digits and a few marks.
-/

namespace RouteProbe.Http

def isTokenChar (c : Char) : Bool :=
  c.isAlphanum ||
    c ∈ ['!', '#', '$', '%', '&', '\'', '*', '+', '-', '.', '^', '_', '\x60', '|', '~']

def isToken (text : String) : Bool := !text.toList.isEmpty && text.toList.all isTokenChar

end RouteProbe.Http

namespace RouteProbe

/-- A request method; letters of different case make different methods. -/
structure Method where
  text : String
  token : Http.isToken text = true
  deriving DecidableEq, Repr

namespace Method

/-- The method with this name, if it is a token. -/
def parse? (text : String) : Option Method :=
  if token : Http.isToken text = true then some ⟨text, token⟩ else none

def get : Method := ⟨"GET", by decide⟩

def head : Method := ⟨"HEAD", by decide⟩

def post : Method := ⟨"POST", by decide⟩

def options : Method := ⟨"OPTIONS", by decide⟩

instance : Inhabited Method := ⟨get⟩

/-- Methods are told apart by their names. -/
theorem text_inj {left right : Method} : left.text = right.text ↔ left = right := by
  cases left
  cases right
  simp

theorem parse?_eq_some_iff {text : String} {method : Method} :
    parse? text = some method ↔ method.text = text := by
  constructor
  · intro parsed
    simp only [parse?] at parsed
    split at parsed
    · cases parsed; rfl
    · contradiction
  · rintro rfl
    simp [parse?, method.token]

end Method

end RouteProbe
