import RouteProbe.Text.Octets

/-! # The octets of characters

A character of the first half of the octets is written as one octet, and any other with octets of
the second half only. So an octet of the first half always stands for a character of its own.
-/

namespace RouteProbe.Text

def encode (letters : List Char) : List UInt8 := letters.flatMap String.utf8EncodeChar

theorem octets_ofList (letters : List Char) : octets (String.ofList letters) = encode letters := by
  rw [octets, String.toList_ofList, encode]

theorem encode_append (start rest : List Char) : encode (start ++ rest) = encode start ++ encode rest :=
  List.flatMap_append

theorem encode_cons (c : Char) (rest : List Char) :
    encode (c :: rest) = String.utf8EncodeChar c ++ encode rest :=
  List.flatMap_cons

theorem utf8EncodeChar_of_lt {c : Char} (low : c.toNat < 128) :
    String.utf8EncodeChar c = [UInt8.ofNat c.toNat] :=
  if_pos (Nat.le_of_lt_succ low)

theorem encode_of_low {letters : List Char} (low : ∀ c ∈ letters, c.toNat < 128) :
    encode letters = letters.map fun c => UInt8.ofNat c.toNat := by
  rw [encode, List.map_eq_flatMap, List.flatMap_def, List.flatMap_def,
    List.map_congr_left fun c member => utf8EncodeChar_of_lt (low c member)]

theorem le_of_mem_utf8EncodeChar {c : Char} (high : 128 ≤ c.toNat) {octet : UInt8}
    (member : octet ∈ String.utf8EncodeChar c) : 128 ≤ octet.toNat := by
  change 128 ≤ c.val.toNat at high
  rw [String.utf8EncodeChar.eq_1, if_neg (by omega)] at member
  split at member
  · simp only [List.mem_cons, List.not_mem_nil, or_false] at member
    rcases member with rfl | rfl <;> simp only [UInt8.toNat_ofNat'] <;> omega
  · split at member <;> simp only [List.mem_cons, List.not_mem_nil, or_false] at member
    · rcases member with rfl | rfl | rfl <;> simp only [UInt8.toNat_ofNat'] <;> omega
    · rcases member with rfl | rfl | rfl | rfl <;> simp only [UInt8.toNat_ofNat'] <;> omega

end RouteProbe.Text
