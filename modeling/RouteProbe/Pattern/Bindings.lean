/-! # Variable bindings

The values that a match binds to the variables of its pattern, in the order of the variables.
-/

namespace RouteProbe

/-- Names with their values, the first capture first. -/
structure Bindings where
  entries : List (String × String) := []
  deriving DecidableEq, Repr

namespace Bindings

def capture (bindings : Bindings) (name value : String) : Bindings :=
  ⟨bindings.entries ++ [(name, value)]⟩

def get? (bindings : Bindings) (name : String) : Option String := bindings.entries.lookup name

def names (bindings : Bindings) : List String := bindings.entries.map (·.1)

def size (bindings : Bindings) : Nat := bindings.entries.length

/-- Forgets every capture made since there were `mark` of them. -/
def rewind (bindings : Bindings) (mark : Nat) : Bindings := ⟨bindings.entries.take mark⟩

theorem capture_entries (bindings : Bindings) (name value : String) :
    (bindings.capture name value).entries = bindings.entries ++ [(name, value)] := rfl

/-- Going back to before a capture undoes it. -/
theorem rewind_capture (bindings : Bindings) (name value : String) :
    (bindings.capture name value).rewind bindings.size = bindings := by
  simp [rewind, capture, size]

end Bindings

end RouteProbe
