import RouteProbe.Http.Headers
import RouteProbe.Proofs.Text.Encoding
import RouteProbe.Proofs.Text.Spellings
import RouteProbe.Text.Blank
import RouteProbe.Text.Split

/-! # What header fields say

A header can hold a text if none of its octets is a control octet. A value that can be read as text
spells what is read from it, so whatever has been read from one header can be written into another.
Fields are changed by putting one field in the place of all fields of its name, and the fields of
all other names stay as they are.
-/

namespace RouteProbe

namespace HeaderValue

variable {value : HeaderValue} {text : String}

/-- Whether a value consists of the octets of a text. -/
def Spells (value : HeaderValue) (text : String) : Prop := value.octets = Text.octets text

/-- Whether a header can hold a text. -/
def IsLegal (text : String) : Prop := (Text.octets text).all allows = true

/-- The names in the list that a value spells, in lowercase. Entries that are no names of headers
count for nothing; a star has the form of a name. Every octet is taken for a character of its own,
so that an entry which cannot be read does not hide the others. -/
def headerNames (value : HeaderValue) : List String :=
  let list := String.ofList (value.octets.map fun octet => Char.ofNat octet.toNat)
  (Text.pieces ',' list).filterMap fun entry => headerName? (Text.trim entry)

theorem ofText?_eq_some_iff : ofText? text = some value ↔ value.Spells text := by
  obtain ⟨octets, legal⟩ := value
  rw [ofText?, ofOctets?, Spells]
  constructor
  · intro made
    split at made
    · exact (congrArg HeaderValue.octets (Option.some.inj made)).symm
    · contradiction
  · intro same
    subst same
    exact dif_pos legal

theorem isLegal_iff : IsLegal text ↔ ∃ value, ofText? text = some value := by
  rw [IsLegal, ofText?, ofOctets?]
  constructor
  · intro legal
    exact ⟨⟨Text.octets text, legal⟩, dif_pos legal⟩
  · rintro ⟨value, made⟩
    split at made
    next legal => exact legal
    · contradiction

theorem ofText?_eq_none_iff : ofText? text = none ↔ ¬ IsLegal text := by
  rw [isLegal_iff, ← Option.isSome_iff_exists, Bool.not_eq_true, Option.isSome_eq_false_iff,
    Option.isNone_iff_eq_none]

/-- A text without control characters and without characters beyond the first half of the octets is
legal. -/
theorem isLegal_of_visible (visible : ∀ c ∈ text.toList, 32 ≤ c.toNat ∧ c.toNat < 127) :
    IsLegal text := by
  rw [IsLegal, List.all_eq_true]
  intro octet member
  obtain ⟨c, inside, encoded⟩ := List.mem_flatMap.mp member
  obtain ⟨lower, upper⟩ := visible c inside
  rw [Text.utf8EncodeChar_of_lt (by omega)] at encoded
  obtain rfl := List.mem_singleton.mp encoded
  have codes : ∀ code < 127, 32 ≤ code → allows (UInt8.ofNat code) = true := by decide
  exact codes c.toNat upper lower

/-- A number in decimal digits is legal. -/
theorem isLegal_toString (number : Nat) : IsLegal (toString number) := by
  refine isLegal_of_visible fun c inside => ?_
  rw [Nat.toString_eq_repr, Nat.repr, String.toList_ofList] at inside
  have code := toNat_of_mem_toDigits inside
  omega

theorem utf8EncodeChar_of_readable {octet : UInt8} (readable : isReadable octet = true) :
    String.utf8EncodeChar (Char.ofNat octet.toNat) = [octet] := by
  have low : octet.toNat < 127 := by
    simp only [isReadable, Bool.or_eq_true, Bool.and_eq_true, decide_eq_true_eq,
      beq_iff_eq] at readable
    rcases readable with ⟨_, upper⟩ | rfl
    · exact UInt8.lt_iff_toNat_lt.mp upper
    · decide
  have codes : ∀ code < 127, String.utf8EncodeChar (Char.ofNat code) = [UInt8.ofNat code] := by
    decide +kernel
  rw [codes octet.toNat low, UInt8.ofNat_toNat]

theorem spells_of_text? (read : value.text? = some text) : value.Spells text := by
  rw [text?] at read
  split at read
  next readable =>
    obtain rfl := Option.some.inj read
    have alone : ∀ octet ∈ value.octets,
        String.utf8EncodeChar (Char.ofNat octet.toNat) = [octet] := fun octet member =>
      utf8EncodeChar_of_readable (List.all_eq_true.mp readable octet member)
    rw [Spells, Text.octets, String.toList_ofList, List.flatMap_map, List.flatMap_def,
      List.map_congr_left alone, ← List.flatMap_def, List.flatMap_singleton']
  · contradiction

end HeaderValue

namespace Headers

/-- Whether there is one field with a name, and its value spells a text. -/
def Carries (headers : Headers) (name text : String) : Prop :=
  ∃ value, headers.getAll name = [value] ∧ value.Spells text

theorem getAll_insert_self (headers : Headers) (name : String) (value : HeaderValue) :
    (headers.insert name value).getAll name = [value] := by
  simp [insert, getAll, List.filter_append, List.filter_filter]

theorem getAll_insert_of_ne (headers : Headers) {name sought : String} (different : sought ≠ name)
    (value : HeaderValue) : (headers.insert name value).getAll sought = headers.getAll sought := by
  simp only [insert, getAll, List.filter_append, List.filter_filter]
  have kept : headers.fields.filter (fun field => decide (field.1 = sought) &&
      decide (field.1 ≠ name)) = headers.fields.filter fun field => decide (field.1 = sought) := by
    apply List.filter_congr
    intro field _
    by_cases same : field.1 = sought <;> simp [same, different]
  rw [kept, List.filter_cons_of_neg (by simpa using different.symm), List.filter_nil,
    List.append_nil]

end Headers

end RouteProbe
