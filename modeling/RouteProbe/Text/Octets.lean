/-! # Texts as octets

The UTF-8 form of a text, and the text that a row of octets spells.
-/

namespace RouteProbe.Text

def octets (text : String) : List UInt8 := text.toList.flatMap String.utf8EncodeChar

def ofOctets? (bytes : List UInt8) : Option String := String.fromUTF8? bytes.toByteArray

/-- A text is read back from its octets. -/
theorem ofOctets?_octets (text : String) : ofOctets? (octets text) = some text := by
  have same : (octets text).toByteArray = text.toByteArray := by
    have := String.toByteArray_ofList (l := text.toList)
    rw [String.ofList_toList] at this
    rw [this]; rfl
  rw [ofOctets?, same, String.fromUTF8?, dif_pos text.isValidUTF8]
  rfl

end RouteProbe.Text
