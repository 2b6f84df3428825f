import RouteProbe.Proofs.Document.WrittenTexts
import RouteProbe.Proofs.NamedLists
import RouteProbe.Proofs.Text.Spellings

/-! # Values between their neighbours

What is written of a value is read back as this value, and the reader stops where it ends
(`Json.readValue_write`). Only a number needs its neighbour for that: it ends where no digit, point
or exponent follows, and behind a written value there is nothing of the kind.
-/

namespace RouteProbe.Document

/-- The values that can be written without loss: those without garbled texts, and with natural
numbers only. -/
inductive Value.IsPlain : Value → Prop
  | null : IsPlain .null
  | flag (value : Bool) : IsPlain (.flag value)
  | natural (value : Nat) : IsPlain (.natural value)
  | text (value : String) : IsPlain (.text value)
  | list {items : List Value} (each : ∀ item ∈ items, IsPlain item) : IsPlain (.list items)
  | record {fields : List (String × Value)} (each : ∀ field ∈ fields, IsPlain field.2) :
      IsPlain (.record fields)

/-- A record that consists of the declared fields gives the value of each. -/
theorem Value.takeFields_declared (fields : List (String × Value))
    (distinct : (fields.map (·.1)).Nodup) (extensible : Bool) :
    takeFields (fields.map (·.1)) extensible fields = some (fields.map fun field => some field.2) := by
  have known : fields.filter (fun field => field.1 ∈ fields.map (·.1)) = fields :=
    List.filter_eq_self.mpr fun field member => decide_eq_true (List.mem_map_of_mem member)
  have found : ∀ field ∈ fields, fields.lookup field.1 = some field.2 := fun field member =>
    (lookup_eq_some_iff_mem distinct).mpr member
  have allowed : ((extensible || fields.length == fields.length) &&
      decide (fields.map (·.1)).Nodup) = true := by simp [distinct]
  simp only [takeFields, known]
  rw [if_pos allowed, List.map_map]
  exact congrArg some (List.map_congr_left found)

namespace Json

open Text (encode)

/-- What can follow a value: nothing, a comma or a closing bracket of either kind. -/
inductive Follows : List UInt8 → Prop
  | nothing : Follows []
  | comma (rest : List UInt8) : Follows (comma :: rest)
  | closeBracket (rest : List UInt8) : Follows (closeBracket :: rest)
  | closeBrace (rest : List UInt8) : Follows (closeBrace :: rest)

/-! ## Numbers -/

/-- No digit stands between values, and none begins a value of another kind or ends a list. -/
theorem marks_of_isDigit {octet : UInt8} (digit : isDigit octet = true) :
    isGap octet = false ∧
      octet ∉ [quote, openBracket, openBrace, closeBracket, minus, 0x6E, 0x74, 0x66] := by
  have codes : ∀ code < 256, isDigit (UInt8.ofNat code) = true →
      isGap (UInt8.ofNat code) = false ∧ UInt8.ofNat code ∉
        [quote, openBracket, openBrace, closeBracket, minus, 0x6E, 0x74, 0x66] := by
    decide +kernel
  have holds := codes octet.toNat octet.toNat_lt
  rw [UInt8.ofNat_toNat] at holds
  exact holds digit

theorem head?_toDigits_ne {number : Nat} (positive : 0 < number) :
    (Nat.toDigits 10 number).head? ≠ some '0' := by
  induction number using Nat.strongRecOn with
  | ind number ih =>
    by_cases single : number < 10
    · have digits : ∀ digit < 10, 0 < digit → digit.digitChar ≠ '0' := by decide
      rw [Nat.toDigits_of_lt_base single, List.head?_cons]
      exact fun same => digits number single positive (Option.some.inj same)
    · rw [Nat.toDigits_of_base_le (by omega) (by omega),
        List.head?_append_of_ne_nil _ Nat.toDigits_ne_nil]
      exact ih (number / 10) (by omega) (by omega)

/-- The digits of a number are written one octet each. -/
theorem encode_toDigits (number : Nat) :
    encode (Nat.toDigits 10 number) =
      (Nat.toDigits 10 number).map fun c => UInt8.ofNat c.toNat := by
  refine Text.encode_of_low fun c member => ?_
  have code := toNat_of_mem_toDigits member
  omega

theorem isDigit_of_mem_encode {number : Nat} {octet : UInt8}
    (member : octet ∈ encode (Nat.toDigits 10 number)) : isDigit octet = true := by
  rw [encode_toDigits] at member
  obtain ⟨c, inside, rfl⟩ := List.mem_map.mp member
  obtain ⟨lower, upper⟩ := toNat_of_mem_toDigits inside
  have codes : ∀ code < 58, 48 ≤ code → isDigit (UInt8.ofNat code) = true := by decide
  exact codes c.toNat (by omega) lower

/-- A number begins with a digit, and with a zero only if it is zero. -/
theorem exists_digit (number : Nat) :
    ∃ first others, encode (Nat.toDigits 10 number) = first :: others ∧ isDigit first = true ∧
      (0 < number → first ≠ zero) := by
  obtain ⟨c, digits, whole⟩ := List.exists_cons_of_ne_nil (Nat.toDigits_ne_nil (n := number) (b := 10))
  have written := encode_toDigits number
  rw [whole, List.map_cons, ← whole] at written
  refine ⟨_, _, written, isDigit_of_mem_encode (written ▸ List.mem_cons_self), ?_⟩
  intro positive same
  have head : c ≠ '0' := fun null =>
    head?_toDigits_ne positive (by rw [whole, List.head?_cons, null])
  obtain ⟨-, upper⟩ := toNat_of_mem_toDigits (whole ▸ List.mem_cons_self : c ∈ Nat.toDigits 10 number)
  have code := congrArg UInt8.toNat same
  rw [UInt8.toNat_ofNat_of_lt' (by change c.toNat < 256; omega)] at code
  exact head (Char.toNat_inj.mp code)

/-- The digits of a number spell the number. -/
theorem digitsValue_toDigits (number : Nat) : digitsValue
    (encode (Nat.toDigits 10 number)) = number := by
  rw [digitsValue, encode_toDigits, List.foldl_map]
  calc
    _ = (Nat.toDigits 10 number).foldl (fun value c => 10 * value + (c.toNat - '0'.toNat)) 0 := by
      refine List.foldl_ext _ _ _ fun value c member => ?_
      obtain ⟨-, upper⟩ := toNat_of_mem_toDigits member
      rw [UInt8.toNat_ofNat_of_lt' (by change c.toNat < 256; omega), Nat.mul_comm]
      rfl
    _ = Nat.ofDigitChars 10 (Nat.toDigits 10 number) 0 := Nat.ofDigitChars_eq_foldl.symm
    _ = number := Nat.ofDigitChars_ten_toDigits

section Number

variable {digits rest : List UInt8}

theorem readDigits?_append (filled : digits ≠ []) (each : ∀ octet ∈ digits, isDigit octet = true)
    (follows : Follows rest) : readDigits? (digits ++ rest) = some (digits, rest) := by
  have ends : rest.takeWhile isDigit = [] ∧ rest.dropWhile isDigit = rest := by
    cases follows <;> exact ⟨rfl, rfl⟩
  rw [readDigits?, List.takeWhile_append_of_pos each, List.dropWhile_append_of_pos each, ends.1,
    ends.2, List.append_nil]
  split
  · contradiction
  · rfl

/-- A number begins with a zero only if it is zero, so all its digits are read. -/
theorem readWhole?_toDigits (number : Nat) (follows : Follows rest) :
    readWhole? (encode (Nat.toDigits 10 number) ++ rest) =
      some (encode (Nat.toDigits 10 number), rest) := by
  rcases Nat.eq_zero_or_pos number with rfl | positive
  · rfl
  · obtain ⟨first, others, written, digit, nonzero⟩ := exists_digit number
    have filled : encode (Nat.toDigits 10 number) ≠ [] := written ▸ List.cons_ne_nil first others
    have read := readDigits?_append filled (fun _ => isDigit_of_mem_encode) follows
    rw [written, List.cons_append] at read ⊢
    rw [readWhole?, read]
    exact fun _ opens => nonzero positive (List.cons.inj opens).1

theorem readFraction?_of_follows (follows : Follows rest) : readFraction? rest = some ([], rest) := by
  cases follows <;> rfl

theorem readExponent?_of_follows (follows : Follows rest) : readExponent? rest = some ([], rest) := by
  cases follows <;> rfl

/-- A number is read back from its digits, if it ends behind them. -/
theorem readNumber?_toDigits (number : Nat) (follows : Follows rest) :
    readNumber? (encode (Nat.toDigits 10 number) ++ rest) = some (.natural number, rest) := by
  have whole := readWhole?_toDigits number follows
  have value := digitsValue_toDigits number
  obtain ⟨first, others, written, digit, -⟩ := exists_digit number
  have unsigned : first ≠ minus := by
    rintro rfl
    contradiction
  rw [written, List.cons_append] at whole ⊢
  rw [written] at value
  simp only [readNumber?]
  split
  next more opens => exact absurd (List.cons.inj opens).1 unsigned
  next => simp [whole, readFraction?_of_follows follows, readExponent?_of_follows follows, value]

end Number

/-! ## Values -/

section Value

variable {steps : Nat} {value : Value} {rest : List UInt8}

/-- Records with names that can be read are got back. -/
theorem recordOf_named (fields : List (String × Value)) :
    recordOf (fields.map fun field => (some field.1, field.2)) = .record fields := by
  have named : (fields.map fun field => (some field.1, field.2)).mapM
      (fun field => field.1.map (·, field.2)) = some fields := by
    induction fields with
    | nil => rfl
    | cons field fields ih => simp [ih]
  rw [recordOf, named]

/-- A written value begins with an octet that is no gap and closes no list. -/
theorem exists_opening (plain : value.IsPlain) :
    ∃ first others, encode (write value) = first :: others ∧ isGap first = false ∧
      first ≠ closeBracket := by
  cases plain with
  | null => exact ⟨_, _, rfl, rfl, by decide⟩
  | flag value => cases value <;> exact ⟨_, _, rfl, rfl, by decide⟩
  | text value => exact ⟨quote, _, rfl, rfl, by decide⟩
  | list each => exact ⟨openBracket, _, rfl, rfl, by decide⟩
  | record each => exact ⟨openBrace, _, rfl, rfl, by decide⟩
  | natural value =>
    obtain ⟨first, others, written, digit, -⟩ := exists_digit value
    refine ⟨first, others, written, ?_, ?_⟩
    · exact (marks_of_isDigit digit).1
    · rintro rfl
      contradiction

theorem skipGap_of_not_gap {first : UInt8} (ungapped : isGap first = false) (rest : List UInt8) :
    skipGap (first :: rest) = first :: rest :=
  List.dropWhile_cons_of_neg (by simp [ungapped])

theorem encode_comma (inner : List Char) : encode (',' :: inner) = comma :: encode inner := rfl

theorem encode_colon (inner : List Char) : encode (':' :: inner) = colon :: encode inner := rfl

/-- Brackets are written as one octet each. -/
theorem encode_between (opening closing : Char) (inner : List Char) :
    encode (opening :: inner ++ [closing]) ++ rest =
      String.utf8EncodeChar opening ++ (encode inner ++ (String.utf8EncodeChar closing ++ rest)) := by
  simp [encode]

theorem length_between (opening closing : Char) (inner : List Char) :
    (encode inner).length < (encode (opening :: inner ++ [closing])).length := by
  have first := List.length_pos_of_ne_nil (String.utf8EncodeChar_ne_nil (c := opening))
  simp only [encode, List.cons_append, List.flatMap_cons, List.flatMap_append, List.length_append]
  omega

theorem readValue_null : readValue (steps + 1) (encode (write .null) ++ rest) = some (.null, rest) := by
  rfl

theorem readValue_flag (value : Bool) :
    readValue (steps + 1) (encode (write (.flag value)) ++ rest) = some (.flag value, rest) := by
  cases value <;> rfl

theorem readValue_text (text : String) :
    readValue (steps + 1) (encode (write (.text text)) ++ rest) = some (.text text, rest) := by
  obtain ⟨parts, spelled, written, opens, read⟩ := exists_readParts_writeText text rest
  rw [write, opens]
  change (readParts (written ++ rest)).bind _ = _
  rw [read, Option.bind_some]
  simp only [spelled]
  rfl

theorem readValue_natural (number : Nat) (follows : Follows rest) :
    readValue (steps + 1) (encode (write (.natural number)) ++ rest) =
      some (.natural number, rest) := by
  have read := readNumber?_toDigits number follows
  obtain ⟨first, others, written, digit, -⟩ := exists_digit number
  obtain ⟨ungapped, unmarked⟩ := marks_of_isDigit digit
  simp only [List.mem_cons, List.not_mem_nil, or_false, not_or] at unmarked
  obtain ⟨quoted, bracket, brace, -, -, null, yes, no⟩ := unmarked
  have words : dropWord? (Text.octets "null") (first :: (others ++ rest)) = none ∧
      dropWord? (Text.octets "true") (first :: (others ++ rest)) = none ∧
      dropWord? (Text.octets "false") (first :: (others ++ rest)) = none :=
    ⟨if_neg (Ne.symm null), if_neg (Ne.symm yes), if_neg (Ne.symm no)⟩
  rw [write, written, List.cons_append, readValue, skipGap_of_not_gap ungapped]
  rw [written, List.cons_append] at read
  split
  next opens => exact absurd (List.cons.inj opens).1 quoted
  next opens => exact absurd (List.cons.inj opens).1 bracket
  next opens => exact absurd (List.cons.inj opens).1 brace
  next => rw [words.1, words.2.1, words.2.2, read]

/-- A list is read item by item, since its first item does not close it. -/
theorem readValue_list {item : Value} {items : List Value} (plain : item.IsPlain)
    (read : readItems steps (encode (writeItems (item :: items)) ++ closeBracket :: rest) =
      some (item :: items, rest)) :
    readValue (steps + 1) (encode (write (.list (item :: items))) ++ rest) =
      some (.list (item :: items), rest) := by
  obtain ⟨first, others, opens, ungapped, unclosed⟩ := exists_opening plain
  have begins : ∃ more, encode (writeItems (item :: items)) = first :: more := by
    cases items with
    | nil => exact ⟨others, opens⟩
    | cons next later => exact ⟨_, by rw [writeItems, Text.encode_append, opens, List.cons_append]⟩
  obtain ⟨more, begins⟩ := begins
  rw [begins, List.cons_append] at read
  rw [write, encode_between, begins, List.cons_append]
  change readValue (steps + 1) (openBracket :: (first :: (more ++ closeBracket :: rest))) = _
  have opening : isGap openBracket = false := by decide
  rw [readValue, skipGap_of_not_gap opening]
  split
  next quoted => exact absurd (List.cons.inj quoted).1 (by decide)
  next inner opened =>
    obtain ⟨-, rfl⟩ := List.cons.inj opened
    rw [skipGap_of_not_gap ungapped]
    split
    next closes => exact absurd (List.cons.inj closes).1 unclosed
    next =>
      rw [read]
      rfl
  next braced => exact absurd (List.cons.inj braced).1 (by decide)
  next unopened _ => exact absurd rfl (unopened _)

/-- A record is read field by field. -/
theorem readValue_record {field : String × Value} {fields : List (String × Value)}
    (read : readFields steps (encode (writeFields (field :: fields)) ++ closeBrace :: rest) =
      some ((field :: fields).map fun field => (some field.1, field.2), rest)) :
    readValue (steps + 1) (encode (write (.record (field :: fields))) ++ rest) =
      some (.record (field :: fields), rest) := by
  have begins : ∃ more, encode (writeFields (field :: fields)) = quote :: more := by
    cases fields <;> exact ⟨_, rfl⟩
  obtain ⟨more, begins⟩ := begins
  rw [begins, List.cons_append] at read
  rw [write, encode_between, begins, List.cons_append]
  change (readFields steps (quote :: (more ++ closeBrace :: rest))).bind
    (fun read => some (recordOf read.1, read.2)) = _
  rw [read, Option.bind_some, recordOf_named]

/-- An item is read, and what follows it decides whether there are more. -/
theorem readItems_item {item : Value} {tail : List UInt8}
    (read : readValue steps (encode (write item) ++ tail) = some (item, tail)) :
    readItems (steps + 1) (encode (write item) ++ tail) =
      match skipGap tail with
      | comma :: rest => do
        let (items, rest) ← readItems steps rest
        return (item :: items, rest)
      | closeBracket :: rest => some ([item], rest)
      | _ => none := by
  rw [readItems, read]
  rfl

/-- A field is read, and what follows it decides whether there are more. -/
theorem readFields_field {name : String} {tail : List UInt8}
    (read : readValue steps (encode (write value) ++ tail) = some (value, tail)) :
    readFields (steps + 1) (encode (writeText name ++ ':' :: write value) ++ tail) =
      match skipGap tail with
      | comma :: rest => do
        let (fields, rest) ← readFields steps rest
        return ((some name, value) :: fields, rest)
      | closeBrace :: rest => some ([(some name, value)], rest)
      | _ => none := by
  obtain ⟨parts, spelled, written, opens, readName⟩ :=
    exists_readParts_writeText name (colon :: (encode (write value) ++ tail))
  have whole : encode (writeText name ++ ':' :: write value) ++ tail =
      quote :: (written ++ colon :: (encode (write value) ++ tail)) := by
    rw [Text.encode_append, opens, List.append_assoc]
    rfl
  rw [whole, ← spelled]
  change ((readParts (written ++ colon :: (encode (write value) ++ tail))).bind fun named => _) = _
  rw [readName]
  change ((readValue steps (encode (write value) ++ tail)).bind fun found => _) = _
  rw [read]
  rfl

/-- What is written of values is read back in a number of steps that is twice as large as what is
written. -/
structure ReadsBack (steps : Nat) : Prop where
  value : ∀ {value : Value} {rest : List UInt8}, value.IsPlain → Follows rest →
    2 * (encode (write value)).length ≤ steps →
    readValue steps (encode (write value) ++ rest) = some (value, rest)
  items : ∀ {item : Value} {items : List Value} (rest : List UInt8),
    (∀ value ∈ item :: items, value.IsPlain) →
    2 * (encode (writeItems (item :: items))).length < steps →
    readItems steps (encode (writeItems (item :: items)) ++ closeBracket :: rest) =
      some (item :: items, rest)
  fields : ∀ {field : String × Value} {fields : List (String × Value)} (rest : List UInt8),
    (∀ named ∈ field :: fields, named.2.IsPlain) →
    2 * (encode (writeFields (field :: fields))).length < steps →
    readFields steps (encode (writeFields (field :: fields)) ++ closeBrace :: rest) =
      some ((field :: fields).map fun field => (some field.1, field.2), rest)

namespace ReadsBack

variable (ih : ReadsBack steps)

include ih

theorem value_succ {value : Value} {rest : List UInt8} (plain : value.IsPlain)
    (follows : Follows rest) (enough : 2 * (encode (write value)).length ≤ steps + 1) :
    readValue (steps + 1) (encode (write value) ++ rest) = some (value, rest) := by
  cases plain with
  | null => exact readValue_null
  | flag value => exact readValue_flag value
  | natural number => exact readValue_natural number follows
  | text text => exact readValue_text text
  | @list items each =>
    cases items with
    | nil => rfl
    | cons item items =>
      refine readValue_list (each item List.mem_cons_self) (ih.items rest each ?_)
      have shorter := length_between '[' ']' (writeItems (item :: items))
      rw [write] at enough
      omega
  | @record fields each =>
    cases fields with
    | nil => rfl
    | cons field fields =>
      refine readValue_record (ih.fields rest each ?_)
      have shorter := length_between '{' '}' (writeFields (field :: fields))
      rw [write] at enough
      omega

theorem items_succ {item : Value} {items : List Value} (rest : List UInt8)
    (plain : ∀ value ∈ item :: items, value.IsPlain)
    (enough : 2 * (encode (writeItems (item :: items))).length < steps + 1) :
    readItems (steps + 1) (encode (writeItems (item :: items)) ++ closeBracket :: rest) =
      some (item :: items, rest) := by
  have first := plain item List.mem_cons_self
  cases items with
  | nil =>
    rw [writeItems] at enough ⊢
    rw [readItems_item (ih.value first (.closeBracket rest) (by omega))]
    rfl
  | cons next later =>
    rw [writeItems, Text.encode_append, encode_comma] at enough ⊢
    rw [List.length_append, List.length_cons] at enough
    have others := ih.items rest
      (fun value member => plain value (List.mem_cons_of_mem item member)) (by omega)
    rw [List.append_assoc, List.cons_append, readItems_item (ih.value first (.comma _) (by omega))]
    change (readItems steps (encode (writeItems (next :: later)) ++ closeBracket :: rest)).bind _ = _
    rw [others]
    rfl

theorem fields_succ {field : String × Value} {fields : List (String × Value)} (rest : List UInt8)
    (plain : ∀ named ∈ field :: fields, named.2.IsPlain)
    (enough : 2 * (encode (writeFields (field :: fields))).length < steps + 1) :
    readFields (steps + 1) (encode (writeFields (field :: fields)) ++ closeBrace :: rest) =
      some ((field :: fields).map fun field => (some field.1, field.2), rest) := by
  obtain ⟨name, value⟩ := field
  have first : value.IsPlain := plain (name, value) List.mem_cons_self
  cases fields with
  | nil =>
    rw [writeFields] at enough ⊢
    rw [Text.encode_append, encode_colon, List.length_append, List.length_cons] at enough
    rw [readFields_field (ih.value first (.closeBrace rest) (by omega))]
    rfl
  | cons next later =>
    have joined : writeFields ((name, value) :: next :: later) =
        (writeText name ++ ':' :: write value) ++ ',' :: writeFields (next :: later) := by
      rw [writeFields, List.append_assoc, List.cons_append]
    rw [joined, Text.encode_append, encode_comma] at enough ⊢
    rw [Text.encode_append, encode_colon] at enough
    simp only [List.length_append, List.length_cons] at enough
    have others := ih.fields rest
      (fun named member => plain named (List.mem_cons_of_mem (name, value) member)) (by omega)
    rw [List.append_assoc, List.cons_append,
      readFields_field (ih.value first (.comma _) (by omega))]
    change (readFields steps (encode (writeFields (next :: later)) ++ closeBrace :: rest)).bind _ = _
    rw [others]
    rfl

end ReadsBack

theorem readsBack (steps : Nat) : ReadsBack steps := by
  induction steps with
  | zero =>
    refine ⟨fun plain _ enough => ?_, fun _ enough => by omega, fun _ enough => by omega⟩
    obtain ⟨first, others, opens, -, -⟩ := exists_opening plain
    rw [opens, List.length_cons] at enough
    omega
  | succ steps ih => exact ⟨ih.value_succ, ih.items_succ, ih.fields_succ⟩

/-- A value is read back from the document that is written of it. -/
theorem read?_render (plain : value.IsPlain) : read? (Text.octets (render value)) = some value := by
  have read := (readsBack (2 * (encode (write value)).length + 2)).value plain .nothing (by omega)
  rw [List.append_nil] at read
  rw [render, Text.octets_ofList, read?, read]
  rfl

end Value

end Json

end RouteProbe.Document
