import RouteProbe.Document.Json
import RouteProbe.Proofs.Text.Encoding

/-! # Texts between quotes

What is written of a text is read back as this text, whatever characters it has. A character is
written as it is, behind a backslash, or as its code, and in each case the reader comes to parts
that stand for its octets (`Json.exists_readParts_writeChar`). Nothing that is written of a
character can be taken for the closing quote.
-/

namespace RouteProbe.Document.Json

open Text (encode)

/-- The parts of a text that stand for one character: its octets, or the code of a control
character. -/
inductive SpellsChar (c : Char) : List Part → Prop
  | octets : SpellsChar c ((String.utf8EncodeChar c).map .octet)
  | unit (control : c.toNat < 0x20) : SpellsChar c [.unit c.toNat]

theorem partOctets?_octets (octets : List UInt8) (more : List Part) :
    partOctets? (octets.map .octet ++ more) = (partOctets? more).map (octets ++ ·) := by
  induction octets with
  | nil => simp
  | cons octet rest ih =>
    rw [List.map_cons, List.cons_append, partOctets?, ih]
    cases partOctets? more <;> rfl

/-- A control character is no half of a surrogate pair, so nothing behind it is taken for the other
half. -/
theorem partOctets?_unit {c : Char} (control : c.toNat < 0x20) (more : List Part) :
    partOctets? (.unit c.toNat :: more) =
      (partOctets? more).map (String.utf8EncodeChar c ++ ·) := by
  have single : ¬ (0xD800 ≤ c.toNat ∧ c.toNat < 0xE000) := by omega
  cases more with
  | nil => simp [partOctets?, single, Char.ofNat_toNat]
  | cons part more =>
    cases part with
    | octet value =>
      simp only [partOctets?, single, if_false, Char.ofNat_toNat]
      cases partOctets? more <;> rfl
    | unit low =>
      rw [partOctets?, if_neg (by omega), if_neg single, Char.ofNat_toNat]
      cases partOctets? (.unit low :: more) <;> rfl

theorem SpellsChar.partOctets?_append {c : Char} {parts : List Part} (spells : SpellsChar c parts)
    (more : List Part) :
    partOctets? (parts ++ more) = (partOctets? more).map (String.utf8EncodeChar c ++ ·) := by
  cases spells with
  | octets => exact partOctets?_octets _ more
  | unit control => exact partOctets?_unit control more

/-- Octets that need no escape are read one by one. -/
theorem readParts_plain {octets : List UInt8}
    (plain : ∀ octet ∈ octets, 0x20 ≤ octet.toNat ∧ octet ≠ quote ∧ octet ≠ backslash)
    (rest : List UInt8) :
    readParts (octets ++ rest) =
      (readParts rest).map fun read => (octets.map .octet ++ read.1, read.2) := by
  induction octets with
  | nil => simp
  | cons octet octets ih =>
    obtain ⟨printed, unquoted, unescaped⟩ := plain octet List.mem_cons_self
    have allowed : (octet < 0x20 || octet == backslash) = false := by
      simp [UInt8.lt_iff_toNat_lt, unescaped, printed]
    rw [List.cons_append, readParts, allowed, ih fun other member =>
      plain other (List.mem_cons_of_mem octet member)]
    · cases readParts rest <;> rfl
    · exact unquoted
    · exact fun _ _ _ _ _ same _ => unescaped same
    · exact fun _ _ same _ => unescaped same

/-- A letter behind a backslash is read as the octet that it stands for. -/
theorem readParts_escaped {letter value : UInt8} (stands : escaped? letter = some value)
    (rest : List UInt8) :
    readParts (backslash :: letter :: rest) =
      (readParts rest).map fun read => (.octet value :: read.1, read.2) := by
  have unnumbered : letter ≠ letterU := by
    rintro rfl
    contradiction
  refine (readParts.eq_3 letter rest fun _ _ _ _ _ same _ => unnumbered same).trans ?_
  rw [stands]
  cases readParts rest <;> rfl

/-- Four digits behind a backslash and a `u` are read as a code. -/
theorem readParts_coded {a b c d : UInt8} {code : Nat} (spelled : hexUnit? a b c d = some code)
    (rest : List UInt8) :
    readParts (backslash :: letterU :: a :: b :: c :: d :: rest) =
      (readParts rest).map fun read => (.unit code :: read.1, read.2) := by
  refine (readParts.eq_2 a b c d rest).trans ?_
  rw [spelled]
  cases readParts rest <;> rfl

/-- What is written of a character is read as parts that stand for it, and the reader goes on with
what follows. -/
theorem exists_readParts_writeChar (c : Char) (rest : List UInt8) :
    ∃ parts, SpellsChar c parts ∧ readParts (encode (writeChar c) ++ rest) =
      (readParts rest).map fun read => (parts ++ read.1, read.2) := by
  unfold writeChar
  split
  case h_8 unquoted unescaped _ _ _ _ _ =>
    split
    next control =>
      have digits : ∀ code < 0x20,
          encode [(code / 16).digitChar, (code % 16).digitChar] =
            [UInt8.ofNat (code / 16).digitChar.toNat, UInt8.ofNat (code % 16).digitChar.toNat] ∧
          hexUnit? 0x30 0x30 (UInt8.ofNat (code / 16).digitChar.toNat)
            (UInt8.ofNat (code % 16).digitChar.toNat) = some code := by decide +kernel
      obtain ⟨written, spelled⟩ := digits c.toNat control
      refine ⟨_, .unit control, ?_⟩
      change readParts ([backslash, letterU, 0x30, 0x30] ++
        encode [(c.toNat / 16).digitChar, (c.toNat % 16).digitChar] ++ rest) = _
      rw [written]
      exact readParts_coded spelled rest
    next printed =>
      refine ⟨_, .octets, ?_⟩
      rw [encode, List.flatMap_singleton]
      refine readParts_plain (fun octet member => ?_) rest
      by_cases low : c.toNat < 128
      · rw [Text.utf8EncodeChar_of_lt low] at member
        obtain rfl := List.mem_singleton.mp member
        have codes : ∀ code < 128, Char.ofNat code ≠ '"' → Char.ofNat code ≠ '\\' →
            UInt8.ofNat code ≠ quote ∧ UInt8.ofNat code ≠ backslash := by decide +kernel
        rw [← Char.ofNat_toNat c] at unquoted unescaped
        refine ⟨?_, codes c.toNat low unquoted unescaped⟩
        rw [UInt8.toNat_ofNat']
        omega
      · have high := Text.le_of_mem_utf8EncodeChar (by omega) member
        refine ⟨by omega, ?_, ?_⟩ <;> rintro rfl <;> contradiction
  all_goals exact ⟨_, .octets, readParts_escaped rfl rest⟩

/-- What is written of characters is read as parts that stand for them, up to the closing quote. -/
theorem exists_readParts_writeChars (letters : List Char) (rest : List UInt8) :
    ∃ parts, readParts (encode (letters.flatMap writeChar) ++ quote :: rest) = some (parts, rest) ∧
      partOctets? parts = some (encode letters) := by
  induction letters with
  | nil => exact ⟨[], rfl, rfl⟩
  | cons c letters ih =>
    obtain ⟨later, read, stand⟩ := ih
    obtain ⟨parts, spells, first⟩ :=
      exists_readParts_writeChar c (encode (letters.flatMap writeChar) ++ quote :: rest)
    refine ⟨parts ++ later, ?_, ?_⟩
    · rw [List.flatMap_cons, Text.encode_append, List.append_assoc, first, read, Option.map_some]
    · rw [spells.partOctets?_append, stand, Option.map_some, Text.encode_cons]

/-- A written text is read back behind its opening quote. -/
theorem exists_readParts_writeText (text : String) (rest : List UInt8) :
    ∃ parts, partText? parts = some text ∧
      ∃ written, encode (writeText text) = quote :: written ∧
        readParts (written ++ rest) = some (parts, rest) := by
  obtain ⟨parts, read, stand⟩ := exists_readParts_writeChars text.toList rest
  refine ⟨parts, ?_, encode (text.toList.flatMap writeChar) ++ [quote], ?_, ?_⟩
  · rw [partText?, stand]
    exact Text.ofOctets?_octets text
  · rw [writeText, Text.encode_append]
    rfl
  · rw [List.append_assoc]
    exact read

end RouteProbe.Document.Json
