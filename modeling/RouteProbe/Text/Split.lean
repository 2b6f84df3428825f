/-! # Cutting text at a separator

`cut` keeps every piece between two separators, empty ones included, so that putting the
separators back gives the text again. The segments of a path are its non-empty pieces.
-/

namespace RouteProbe.Text

def cut (sep : Char) : List Char → List (List Char)
  | [] => [[]]
  | c :: rest => if c = sep then [] :: cut sep rest else (cut sep rest).modifyHead (c :: ·)

def glue (sep : Char) : List (List Char) → List Char
  | [] => []
  | [piece] => piece
  | piece :: rest => piece ++ sep :: glue sep rest

theorem cut_ne_nil (sep : Char) (text : List Char) : cut sep text ≠ [] := by
  induction text with
  | nil => simp [cut]
  | cons c rest ih =>
    by_cases same : c = sep
    · simp [cut, same]
    · cases pieces : cut sep rest with
      | nil => exact absurd pieces ih
      | cons head tail => simp [cut, same, pieces]

/-- Cutting loses nothing but the separators, and gluing puts those back. -/
theorem glue_cut (sep : Char) (text : List Char) : glue sep (cut sep text) = text := by
  induction text with
  | nil => rfl
  | cons c rest ih =>
    by_cases same : c = sep
    · cases pieces : cut sep rest with
      | nil => exact absurd pieces (cut_ne_nil sep rest)
      | cons head tail => simpa [cut, same, pieces, glue] using ih
    · cases pieces : cut sep rest with
      | nil => exact absurd pieces (cut_ne_nil sep rest)
      | cons head tail => cases tail <;> simp_all [cut, glue]

def dropStart? : List Char → List Char → Option (List Char)
  | [], text => some text
  | _ :: _, [] => none
  | s :: start, c :: text => if s = c then dropStart? start text else none

theorem dropStart?_eq_some_iff {start text rest : List Char} :
    dropStart? start text = some rest ↔ text = start ++ rest := by
  induction start generalizing text with
  | nil => simp [dropStart?, eq_comm]
  | cons s start ih =>
    cases text with
    | nil => simp [dropStart?]
    | cons c text =>
      by_cases same : s = c
      · simp [dropStart?, same, ih]
      · simp [dropStart?, same, Ne.symm same]

def join (sep : String) : List String → String
  | [] => ""
  | [text] => text
  | text :: rest => text ++ sep ++ join sep rest

def opensWith (c : Char) (text : String) : Bool := text.toList.head? == some c

def closesWith (c : Char) (text : String) : Bool := text.toList.getLast? == some c

def dropOpening (c : Char) (text : String) : String :=
  match text.toList with
  | [] => text
  | first :: rest => if first = c then String.ofList rest else text

def pieces (sep : Char) (text : String) : List String := (cut sep text.toList).map String.ofList

/-- The non-empty pieces of a path between its slashes. -/
def segments (path : String) : List String := (pieces '/' path).filter fun piece => piece ≠ ""

end RouteProbe.Text
