import RouteProbe.Pattern.Parse
import RouteProbe.Proofs.Pattern.Sharing
import RouteProbe.Proofs.Results

/-! # What has been read

A pattern that has been read keeps its text, the two ends of it and the options it was read with,
and its elements are in order: a capture of the rest is the last of them.
-/

namespace RouteProbe.PathPattern

variable {options : PatternOptions}

/-- Reading a segment and those behind it: the segment is read on its own, its variable is a new
one, a capture of the rest has nothing behind it, and the others are read with one more variable
seen. -/
theorem parseElements_cons_eq_ok_iff {seen : List String} {segment : String} {rest : List String}
    {elements : List PatternElement} :
    parseElements options seen (segment :: rest) = .ok elements ↔
      ∃ element, PatternElement.parse options segment = .ok element ∧
        (∀ name, element.capturedName? = some name → name ∉ seen) ∧
        (∀ name, element = .captureRest name → rest = []) ∧
        ∃ later, parseElements options (seen ++ element.capturedName?.toList) rest = .ok later ∧
          element :: later = elements := by
  rw [parseElements, bind_eq_ok_iff]
  refine exists_congr fun element => and_congr_right fun _ => ?_
  cases element with
  | captureRest name =>
    by_cases repeated : name ∈ seen
    · simp [PatternElement.capturedName?, repeated, bind_eq_ok_iff, throw_ne_ok]
    · cases rest <;> simp [PatternElement.capturedName?, repeated, map_eq_ok_iff, throw_ne_ok]
  | capture name =>
    by_cases repeated : name ∈ seen
    · simp [PatternElement.capturedName?, repeated, bind_eq_ok_iff, throw_ne_ok]
    · simp [PatternElement.capturedName?, repeated, map_eq_ok_iff]
  | _ => simp [PatternElement.capturedName?, map_eq_ok_iff]

theorem restLast_of_parseElements {seen segments : List String} {elements : List PatternElement}
    (read : parseElements options seen segments = .ok elements) : RestLast elements := by
  induction segments generalizing seen elements with
  | nil =>
    cases read
    intro before name after same
    exact absurd same.symm (by simp)
  | cons segment rest ih =>
    obtain ⟨element, _, _, last, later, readLater, rfl⟩ := parseElements_cons_eq_ok_iff.mp read
    refine restLast_cons.mpr ⟨?_, ih readLater⟩
    rintro name rfl
    obtain rfl := last name rfl
    cases readLater
    rfl

theorem parse_eq_ok_iff {text : String} {pattern : PathPattern} :
    parse options text = .ok pattern ↔
      ∃ elements, parseElements options [] (Text.segments (Text.dropOpening '/' text)) = .ok elements ∧
        ⟨text, elements, Text.opensWith '/' text, Text.closesWith '/' (Text.dropOpening '/' text),
          options⟩ = pattern := by
  simp only [parse, mapError_eq_ok_iff, parse?, bind_eq_ok_iff, pure_eq_ok_iff]

end RouteProbe.PathPattern
