import RouteProbe.Proofs.Pattern.FailureTable
import RouteProbe.Proofs.Pattern.Grammar

/-! # What patterns mean

A path matches a pattern that has been read exactly if its slashes at both ends are as the pattern
wants them and its segments can be shared out among the elements, and the first sharing decides the
bindings (`PathPattern.match?_firstSharing`). The table of failures and the going back and forth of
the matcher do not show.
-/

namespace RouteProbe

theorem segments_dropOpening (path : String) :
    Text.segments (Text.dropOpening '/' path) = Text.segments path := by
  cases letters : path.toList with
  | nil => simp only [Text.dropOpening, letters]
  | cons first rest =>
    simp only [Text.dropOpening, letters]
    split
    next same =>
      subst same
      simp [Text.segments, Text.pieces, letters, Text.cut]
    next => rfl

/-- The slashes at the two ends of a path are as a pattern with this text and these elements wants
them. -/
structure SlashesFit (options : PatternOptions) (text : String) (elements : List PatternElement)
    (path : String) : Prop where
  opening : Text.opensWith '/' path = true ↔ Text.opensWith '/' text = true
  /-- Unless the last element takes whatever remains, a trailing slash, the first slash apart, has
  to be in both or in none of the two, or it is in the path and optional. -/
  closing : elements.getLast? = some .multi ∨ (∃ name, elements.getLast? = some (.captureRest name)) ∨
    (Text.closesWith '/' (Text.dropOpening '/' path) = true ↔
      Text.closesWith '/' (Text.dropOpening '/' text) = true) ∨
    (Text.closesWith '/' (Text.dropOpening '/' path) = true ∧ options.optionalTrailing = true)

namespace PathPattern

theorem endsOpen_iff (pattern : PathPattern) :
    pattern.endsOpen = true ↔ pattern.elements.getLast? = some .multi ∨
      ∃ name, pattern.elements.getLast? = some (.captureRest name) := by
  unfold endsOpen
  cases pattern.elements.getLast? with
  | none => simp
  | some element => cases element <;> simp [PatternElement.isOpen]

/-- The matcher starts with nothing known and nothing bound. -/
theorem run_answered (pattern : PathPattern) (segments : List String) :
    Answered pattern.options pattern.elements segments
      ((firstSharing? pattern.options pattern.elements segments).map
        (boundValues pattern.elements))
      (.start pattern.elements.length segments.length) (pattern.run segments) :=
  matchFrom_answered (List.drop_zero (l := pattern.elements)) (Nat.zero_le segments.length)
    (isSound_start pattern.options pattern.elements segments)

theorem match?_eq_firstSharing? (pattern : PathPattern) (path : String) :
    pattern.match? path =
      if pattern.fitsEnds path then
        (firstSharing? pattern.options pattern.elements (Text.segments path)).map fun runs =>
          ⟨boundValues pattern.elements runs⟩
      else none := by
  have result := pattern.run_answered (Text.segments path)
  simp only [match?, segments_dropOpening]
  rcases ran : pattern.run (Text.segments path) with ⟨matched, state⟩
  rw [ran] at result
  cases matched with
  | true =>
    obtain ⟨values, bound⟩ := Option.isSome_iff_exists.mp result.isSome.symm
    obtain ⟨runs, found, rfl⟩ := Option.map_eq_some_iff.mp bound
    have entries := result.entries
    rw [found] at entries
    have bindings : state.bindings = ⟨boundValues pattern.elements runs⟩ :=
      congrArg Bindings.mk entries
    simp only [found, Option.map_some, bindings]
  | false => rw [Option.map_eq_none_iff.mp result.eq_none, Option.map_none]

theorem fitsEnds_iff {options : PatternOptions} {text : String} {pattern : PathPattern}
    (read : parse options text = .ok pattern) (path : String) :
    pattern.fitsEnds path = true ↔ SlashesFit options text pattern.elements path := by
  obtain ⟨elements, _, rfl⟩ := parse_eq_ok_iff.mp read
  simp only [fitsEnds, Bool.and_eq_true, Bool.or_eq_true, beq_iff_eq, endsOpen_iff, or_assoc]
  constructor
  · rintro ⟨opening, closing⟩
    exact ⟨Bool.eq_iff_iff.mp opening,
      closing.imp_right (Or.imp_right (Or.imp_left Bool.eq_iff_iff.mp))⟩
  · rintro ⟨opening, closing⟩
    exact ⟨Bool.eq_iff_iff.mpr opening,
      closing.imp_right (Or.imp_right (Or.imp_left Bool.eq_iff_iff.mpr))⟩

/-- A path matches a pattern that has been read exactly if its slashes fit and its segments can be
shared out among the elements. The first such sharing decides the bindings: each variable of the
pattern is bound once, in the order of the elements. -/
theorem match?_firstSharing {options : PatternOptions} {text : String} {pattern : PathPattern}
    (read : parse options text = .ok pattern) (path : String) :
    ((pattern.match? path).isSome = true ↔
      SlashesFit options text pattern.elements path ∧
        ∃ runs, SharesOut options pattern.elements (Text.segments path) runs) ∧
    ∀ bindings, pattern.match? path = some bindings →
      ∃ runs, IsFirstSharing options pattern.elements (Text.segments path) runs ∧
        bindings.entries = boundValues pattern.elements runs ∧
        bindings.names = pattern.elements.filterMap (·.capturedName?) := by
  have fits := fitsEnds_iff read path
  rw [match?_eq_firstSharing?]
  obtain ⟨elements, readElements, rfl⟩ := parse_eq_ok_iff.mp read
  have last := restLast_of_parseElements readElements
  constructor
  · rw [← fits]
    constructor
    · intro matched
      split at matched
      next fitting =>
        obtain ⟨bindings, bound⟩ := Option.isSome_iff_exists.mp matched
        obtain ⟨runs, found, _⟩ := Option.map_eq_some_iff.mp bound
        exact ⟨fitting, runs, sharesOut_of_firstSharing? last found⟩
      next => cases matched
    · rintro ⟨fitting, runs, sharing⟩
      obtain ⟨first, found, _⟩ := sharing.exists_firstSharing? last
      rw [if_pos fitting, found]
      rfl
  · intro bindings bound
    split at bound
    next =>
      obtain ⟨runs, found, rfl⟩ := Option.map_eq_some_iff.mp bound
      have first := (firstSharing?_eq_some_iff last).mp found
      exact ⟨runs, first, rfl, first.1.boundValues_names⟩
    next => cases bound

/-- The double star has to take two segments, since the capture goes wrong behind none and one. -/
theorem match?_firstSharing_backtracks :
    parse {} "/**/{x}/b" =
        .ok ⟨"/**/{x}/b", [.multi, .capture "x", .literal "b"], true, false, {}⟩ ∧
      ∃ runs, IsFirstSharing {} [.multi, .capture "x", .literal "b"] ["a", "b", "c", "b"] runs ∧
        [("x", "c")] = boundValues [.multi, .capture "x", .literal "b"] runs ∧
        Bindings.names ⟨[("x", "c")]⟩ = ["x"] := by
  have read : parse {} "/**/{x}/b" =
      .ok ⟨"/**/{x}/b", [.multi, .capture "x", .literal "b"], true, false, {}⟩ := by rfl
  have segments : Text.segments "/a/b//c/b" = ["a", "b", "c", "b"] := by rfl
  refine ⟨read, ?_⟩
  rw [← segments]
  exact (match?_firstSharing read "/a/b//c/b").2 ⟨[("x", "c")]⟩ (by rfl)

end PathPattern

end RouteProbe
