/-! # Positions in lists

What is read from a list or a table by position can be read behind a check (`within`), so that a
position past the end shows. The lemmas here go from what is left of a list at a position to what is
read there.
-/

namespace RouteProbe

variable {α : Type} {position size : Nat} {items rest : List α} {item : α}

/-- Behind an item there is room for the next one. -/
theorem next_item (behind : items.drop position = item :: rest) :
    position + 1 ≤ items.length ∧ items.drop (position + 1) = rest := by
  have length := congrArg List.length behind
  rw [List.length_drop, List.length_cons] at length
  exact ⟨by omega, by rw [← List.tail_drop, behind]; rfl⟩

theorem getElem_of_drop (inside : position < items.length)
    (behind : items.drop position = item :: rest) :
    items[position] = item := by
  rw [List.drop_eq_getElem_cons inside] at behind
  exact (List.cons.inj behind).1

/-- A position that is none of so many. -/
structure Overrun where
  position : Nat
  size : Nat
  deriving DecidableEq, Repr

/-- Makes an access at one of so many positions, if the position is one of them. -/
def within (position size : Nat) (access : position < size → α) : Except Overrun α :=
  if inside : position < size then .ok (access inside) else .error ⟨position, size⟩

theorem within_of_lt {access : position < size → α} (inside : position < size) :
    within position size access = .ok (access inside) := dif_pos inside

/-- Reads the item of a list at a position. -/
def itemAt (items : List α) (position : Nat) : Except Overrun α :=
  within position items.length fun _ => items[position]

/-- Reads the items of a list from a position on, which may be the end of the list. -/
def itemsFrom (items : List α) (position : Nat) : Except Overrun (List α) :=
  within position (items.length + 1) fun _ => items.drop position

theorem itemAt_of_drop (behind : items.drop position = item :: rest) :
    itemAt items position = .ok item := by
  have inside : position < items.length := (next_item behind).1
  rw [itemAt, within_of_lt inside, getElem_of_drop inside behind]

theorem itemsFrom_of_le (inside : position ≤ items.length) :
    itemsFrom items position = .ok (items.drop position) := within_of_lt (Nat.lt_succ_of_le inside)

end RouteProbe
