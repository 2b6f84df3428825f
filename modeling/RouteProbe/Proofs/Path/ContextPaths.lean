import RouteProbe.Path.RequestPath
import RouteProbe.Proofs.Results

/-! # Paths below a context path

When a path splits at a context path is said here without the order in which the rules are checked
(`SplitsInto`), and so is which rule is broken first otherwise (`BreaksRule`). The parts are cut out
of the stored path, which is possible since a character ends with the context path
(`RequestPath.CutsAt`). Main statement: `RequestPath.parse_splitsInto`.
-/

namespace RouteProbe

/-- Whether a path is a context path followed by a rest, at a boundary between segments. -/
structure SplitsInto (path contextPath rest : String) : Prop where
  slashed : path.toList.head? = some '/'
  whole : path = contextPath ++ rest
  /-- A context path begins with a slash and does not end with one, and the rest goes on with one.
  -/
  apart : contextPath = "" ∨
    contextPath.toList.head? = some '/' ∧ contextPath.toList.getLast? ≠ some '/' ∧
      (rest = "" ∨ rest.toList.head? = some '/')

/-- The first rule that a path and a context path break. -/
inductive BreaksRule (path contextPath : String) : PathFault → Prop
  | noLeadingSlash (bare : path.toList.head? ≠ some '/') : BreaksRule path contextPath .noLeadingSlash
  | contextNoLeadingSlash (slashed : path.toList.head? = some '/') (filled : contextPath ≠ "")
      (bare : contextPath.toList.head? ≠ some '/') :
      BreaksRule path contextPath (.contextNoLeadingSlash contextPath)
  | contextTrailingSlash (slashed : path.toList.head? = some '/')
      (opens : contextPath.toList.head? = some '/') (closes : contextPath.toList.getLast? = some '/') :
      BreaksRule path contextPath (.contextTrailingSlash contextPath)
  /-- The context path is not in front, or it ends within a segment. -/
  | contextNotPrefix (slashed : path.toList.head? = some '/')
      (opens : contextPath.toList.head? = some '/') (unclosed : contextPath.toList.getLast? ≠ some '/')
      (within : ∀ rest, path = contextPath ++ rest → rest ≠ "" ∧ rest.toList.head? ≠ some '/') :
      BreaksRule path contextPath (.contextNotPrefix contextPath)

/-- Whether cutting the whole path behind that many octets gives its two parts, without cutting a
character in two. -/
structure RequestPath.CutsAt (path : RequestPath) (octets : Nat) : Prop where
  boundary : String.Pos.Raw.IsValid path.value ⟨octets⟩
  front : path.value.toByteArray.extract 0 octets = path.contextPath.toByteArray
  back : path.value.toByteArray.extract octets path.value.utf8ByteSize = path.within.toByteArray

namespace StoredPath

theorem contextEnd?_of_pos {value : String} (place : value.Pos) :
    contextEnd? ⟨value, place.offset.byteIdx⟩ = some place := by
  have valid : String.Pos.Raw.IsValidForSlice value.toSlice place.offset := by simpa using place.isValid
  simp only [contextEnd?, String.pos?, String.Slice.pos?, String.Pos.Raw.isValidForSlice_eq_true_iff,
    valid, dite_true, Option.map_some]
  rfl

theorem cut_append (front back : String) :
    contextPath? ⟨front ++ back, front.utf8ByteSize⟩ = some front ∧
      within? ⟨front ++ back, front.utf8ByteSize⟩ = some back := by
  let place : (front ++ back).Pos :=
    ⟨⟨front.utf8ByteSize⟩, String.Pos.Raw.isValid_iff_exists_append.mpr ⟨front, back, rfl, rfl⟩⟩
  have splits : place.Splits front back := ⟨rfl, rfl⟩
  have found : contextEnd? ⟨front ++ back, front.utf8ByteSize⟩ = some place :=
    contextEnd?_of_pos place
  rw [contextPath?, within?, found, Option.map_some, Option.map_some]
  exact ⟨congrArg some (place.splits.eq_left splits), congrArg some (place.splits.eq_right splits)⟩

/-- There is nothing to be cut out within a character. -/
example : within? ⟨"/büro", 3⟩ = none := by rfl

end StoredPath

namespace RequestPath

variable {path contextPath rest : String} {fault : PathFault}

theorem parse?_of_opens (slashed : path.toList.head? = some '/')
    (opens : contextPath.toList.head? = some '/') (unclosed : contextPath.toList.getLast? ≠ some '/') :
    parse? path contextPath = match Text.dropStart? contextPath.toList path.toList with
      | some [] => .ok ⟨contextPath, ""⟩
      | some ('/' :: rest) => .ok ⟨contextPath, String.ofList ('/' :: rest)⟩
      | _ => .error (.contextNotPrefix contextPath) := by
  have filled : contextPath.toList ≠ [] := by
    intro empty
    simp [empty] at opens
  have slashedToo : ¬ (!Text.opensWith '/' path) = true := by simp [Text.opensWith, slashed]
  have opensToo : ¬ (!Text.opensWith '/' contextPath) = true := by simp [Text.opensWith, opens]
  have unclosedToo : ¬ Text.closesWith '/' contextPath = true := by simp [Text.closesWith, unclosed]
  unfold parse?
  exact (if_neg slashedToo).trans
    ((if_neg filled).trans ((if_neg opensToo).trans (if_neg unclosedToo)))

theorem parse?_of_splitsInto (splits : SplitsInto path contextPath rest) :
    parse? path contextPath = .ok ⟨contextPath, rest⟩ := by
  obtain ⟨slashed, whole, rfl | ⟨opens, unclosed, boundary⟩⟩ := splits
  · rw [String.empty_append] at whole
    rw [parse?, if_neg (by simp [Text.opensWith, slashed]), if_pos String.toList_empty, whole]
  · have dropped : Text.dropStart? contextPath.toList path.toList = some rest.toList :=
      Text.dropStart?_eq_some_iff.mpr (by rw [whole, String.toList_append])
    rw [parse?_of_opens slashed opens unclosed, dropped]
    rcases boundary with rfl | continues
    · rfl
    · obtain ⟨later, letters⟩ := List.head?_eq_some_iff.mp continues
      rw [letters]
      change Except.ok (RequestPath.mk contextPath (String.ofList ('/' :: later))) = _
      rw [← letters, String.ofList_toList]

theorem parse?_of_breaksRule (breaks : BreaksRule path contextPath fault) :
    parse? path contextPath = .error fault := by
  cases breaks with
  | noLeadingSlash bare => simp [parse?, Text.opensWith, bare]
  | contextNoLeadingSlash slashed filled bare => simp [parse?, Text.opensWith, slashed, filled, bare]
  | contextTrailingSlash slashed opens closes =>
    have filled : contextPath ≠ "" := by
      rintro rfl
      simp at opens
    simp [parse?, Text.opensWith, Text.closesWith, slashed, filled, opens, closes]
  | contextNotPrefix slashed opens unclosed within =>
    rw [parse?_of_opens slashed opens unclosed]
    have apart {rest : List Char}
        (dropped : Text.dropStart? contextPath.toList path.toList = some rest) :
        rest ≠ [] ∧ rest.head? ≠ some '/' := by
      have whole : path = contextPath ++ String.ofList rest := by
        apply String.toList_inj.mp
        rw [Text.dropStart?_eq_some_iff.mp dropped, String.toList_append, String.toList_ofList]
      simpa using within _ whole
    split
    next dropped => exact absurd rfl (apart dropped).1
    next dropped => exact absurd rfl (apart dropped).2
    next => rfl

/-- A path splits at a context path, or a rule is broken. -/
theorem splitsInto_or_breaksRule (path contextPath : String) :
    (∃ rest, SplitsInto path contextPath rest) ∨ ∃ fault, BreaksRule path contextPath fault := by
  by_cases slashed : path.toList.head? = some '/'
  · by_cases filled : contextPath = ""
    · exact .inl ⟨path, slashed, by rw [filled, String.empty_append], .inl filled⟩
    by_cases opens : contextPath.toList.head? = some '/'
    · by_cases closes : contextPath.toList.getLast? = some '/'
      · exact .inr ⟨_, .contextTrailingSlash slashed opens closes⟩
      by_cases prefixed : ∃ rest, path = contextPath ++ rest ∧ (rest = "" ∨ rest.toList.head? = some '/')
      · obtain ⟨rest, whole, boundary⟩ := prefixed
        exact .inl ⟨rest, slashed, whole, .inr ⟨opens, closes, boundary⟩⟩
      · refine .inr ⟨_, .contextNotPrefix slashed opens closes fun rest whole => ?_⟩
        exact not_or.mp fun boundary => prefixed ⟨rest, whole, boundary⟩
    · exact .inr ⟨_, .contextNoLeadingSlash slashed filled opens⟩
  · exact .inr ⟨_, .noLeadingSlash slashed⟩

theorem parse?_eq_ok_iff {split : RequestPath} :
    parse? path contextPath = .ok split ↔
      split.contextPath = contextPath ∧ SplitsInto path contextPath split.within := by
  constructor
  · intro parsed
    rcases splitsInto_or_breaksRule path contextPath with ⟨rest, splits⟩ | ⟨fault, breaks⟩
    · obtain rfl := Except.ok.inj ((parse?_of_splitsInto splits).symm.trans parsed)
      exact ⟨rfl, splits⟩
    · cases (parse?_of_breaksRule breaks).symm.trans parsed
  · rintro ⟨rfl, splits⟩
    exact parse?_of_splitsInto splits

theorem parse?_eq_error_iff :
    parse? path contextPath = .error fault ↔ BreaksRule path contextPath fault := by
  refine ⟨fun failed => ?_, parse?_of_breaksRule⟩
  rcases splitsInto_or_breaksRule path contextPath with ⟨rest, splits⟩ | ⟨other, breaks⟩
  · cases (parse?_of_splitsInto splits).symm.trans failed
  · obtain rfl := Except.error.inj ((parse?_of_breaksRule breaks).symm.trans failed)
    exact breaks

/-- The two parts of a path can be cut out of it again. -/
theorem cutsAt_contextPath (path : RequestPath) : path.CutsAt path.contextPath.utf8ByteSize where
  boundary := String.Pos.Raw.isValid_iff_exists_append.mpr ⟨path.contextPath, path.within, rfl, rfl⟩
  front := by
    rw [value, String.toByteArray_append]
    exact ByteArray.extract_append_eq_left String.size_toByteArray.symm
  back := by
    rw [value, String.toByteArray_append, String.utf8ByteSize_append]
    apply ByteArray.extract_append_eq_right
    · exact String.size_toByteArray.symm
    · rw [String.size_toByteArray, String.size_toByteArray]

theorem within_of_parse {split : RequestPath} (parsed : parse path contextPath = .ok split) :
    split.within = "" ∨ ∃ rest, split.within.toList = '/' :: rest := by
  rw [parse, mapError_eq_ok_iff, parse?_eq_ok_iff] at parsed
  obtain ⟨rfl, slashed, whole, none | ⟨_, _, boundary⟩⟩ := parsed
  · rw [none, String.empty_append] at whole
    exact .inr (List.head?_eq_some_iff.mp (whole ▸ slashed))
  · exact boundary.imp_right List.head?_eq_some_iff.mp

/-- A path is split at a context path exactly if there is a boundary between segments behind it, and
the parts are the context path and what follows it there. They make up the path, which is stored
with the octets of the context path, and they are what is cut out of it behind those. Otherwise the
error names the path and the first rule that is broken. -/
theorem parse_splitsInto (path contextPath : String) :
    ((∃ split, parse path contextPath = .ok split) ↔ ∃ rest, SplitsInto path contextPath rest) ∧
    (∀ split, parse path contextPath = .ok split ↔
      split.contextPath = contextPath ∧ SplitsInto path contextPath split.within) ∧
    (∀ split, parse path contextPath = .ok split →
      split.value = path ∧ split.contextPath ++ split.within = split.value ∧
        split.CutsAt contextPath.utf8ByteSize ∧
        split.stored = ⟨path, contextPath.utf8ByteSize⟩ ∧
        split.stored.contextPath? = some contextPath ∧ split.stored.within? = some split.within) ∧
    ∀ error, parse path contextPath = .error error ↔
      ∃ fault, BreaksRule path contextPath fault ∧ error = .invalidPath path fault.reason := by
  have succeeds (split : RequestPath) : parse path contextPath = .ok split ↔
      split.contextPath = contextPath ∧ SplitsInto path contextPath split.within := by
    rw [parse, mapError_eq_ok_iff, parse?_eq_ok_iff]
  refine ⟨?_, succeeds, ?_, ?_⟩
  · constructor
    · rintro ⟨split, parsed⟩
      exact ⟨split.within, ((succeeds split).mp parsed).2⟩
    · rintro ⟨rest, splits⟩
      exact ⟨⟨contextPath, rest⟩, (succeeds _).mpr ⟨rfl, splits⟩⟩
  · intro split parsed
    obtain ⟨rfl, splits⟩ := (succeeds split).mp parsed
    refine ⟨splits.whole.symm, rfl, split.cutsAt_contextPath, ?_, StoredPath.cut_append _ _⟩
    rw [stored, value, ← splits.whole]
  · intro error
    rw [parse, mapError_eq_error_iff]
    exact exists_congr fun fault => and_congr parse?_eq_error_iff eq_comm

/-- The context path takes six octets, and ends behind a character. A path that goes on in the same
segment is refused. -/
theorem parse_splitsInto_offices :
    parse "/büro//7" "/büro" = .ok ⟨"/büro", "//7"⟩ ∧ CutsAt ⟨"/büro", "//7"⟩ 6 ∧
      StoredPath.within? ⟨"/büro//7", 6⟩ = some "//7" ∧
      BreaksRule "/bürokratie" "/büro" (.contextNotPrefix "/büro") ∧
      parse "/bürokratie" "/büro" = .error (.invalidPath "/bürokratie"
        "context path '/büro' does not prefix the request path") := by
  have splits : SplitsInto "/büro//7" "/büro" "//7" := ⟨rfl, rfl, .inr ⟨rfl, by decide, .inr rfl⟩⟩
  have breaks : BreaksRule "/bürokratie" "/büro" (.contextNotPrefix "/büro") := by
    refine .contextNotPrefix rfl rfl (by decide) fun rest whole => ?_
    obtain rfl : "kratie" = rest := (String.append_right_inj "/büro").mp whole
    decide
  obtain ⟨_, succeeds, parts, _⟩ := parse_splitsInto "/büro//7" "/büro"
  obtain ⟨_, _, _, fails⟩ := parse_splitsInto "/bürokratie" "/büro"
  have parsed := (succeeds ⟨"/büro", "//7"⟩).mpr ⟨rfl, splits⟩
  obtain ⟨_, _, cuts, _, _, cut⟩ := parts _ parsed
  exact ⟨parsed, cuts, cut, breaks, (fails _).mpr ⟨_, breaks, rfl⟩⟩

end RequestPath

end RouteProbe
