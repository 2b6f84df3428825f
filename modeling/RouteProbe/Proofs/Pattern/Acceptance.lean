import Mathlib.Data.List.Forall2
import RouteProbe.Proofs.Pattern.Meaning

/-! # Which patterns are accepted

What a segment of a pattern may look like, and what it stands for, is said here without a reader
(`PatternElement.Spells`), and so is what can be wrong with it (`PatternElement.Malformed`). A text
is a pattern if its segments conform (`PathPattern.Conforms`); in any other text some segment breaks
a rule, and the leftmost one decides (`PathPattern.LeftmostFault`). Main statements: the reader
accepts what conforms (`PathPattern.exists_parse_eq_ok_iff`) and names the leftmost fault of the
rest (`PathPattern.parse_eq_error_iff`).
-/

namespace RouteProbe

/-- Whether a text is free of braces. -/
def Braceless (text : String) : Prop := '{' ∉ text.toList ∧ '}' ∉ text.toList

instance : DecidablePred Braceless := fun _ => inferInstanceAs (Decidable (_ ∧ _))

theorem Braceless.head?_ne {text : String} (braceless : Braceless text) :
    text.toList.head? ≠ some '{' := by
  intro opens
  exact braceless.1 (List.mem_of_head? opens)

theorem any_isBrace_eq_false_iff {text : String} :
    text.toList.any isBrace = false ↔ Braceless text := by
  rw [← Bool.not_eq_true, ← not_iff_not, not_not]
  simp only [isBrace, List.any_eq_true, Bool.or_eq_true, beq_iff_eq, and_or_left, exists_or,
    exists_eq_right, Braceless, not_and_or, not_not]

theorem any_isBrace_eq_true_iff {text : String} :
    text.toList.any isBrace = true ↔ ¬ Braceless text := by
  rw [← any_isBrace_eq_false_iff, Bool.not_eq_false]

namespace PatternElement

/-- What a segment of a pattern stands for. -/
inductive Spells (options : PatternOptions) : String → PatternElement → Prop
  | multi : Spells options "**" .multi
  | capture {name : String} (named : name ≠ "") (braceless : Braceless name)
      (unstarred : name.toList.head? ≠ some '*') :
      Spells options ("\x7b" ++ name ++ "\x7d") (.capture name)
  | captureRest {name : String} (named : name ≠ "") (braceless : Braceless name) :
      Spells options ("\x7b*" ++ name ++ "\x7d") (.captureRest name)
  | glob {text : String} (braceless : Braceless text) (single : text ≠ "**")
      (wild : '*' ∈ text.toList ∨ '?' ∈ text.toList) :
      Spells options text (.glob (options.fold text))
  | literal {text : String} (braceless : Braceless text) (starless : '*' ∉ text.toList)
      (markless : '?' ∉ text.toList) : Spells options text (.literal (options.fold text))

/-- What is wrong with a segment of a pattern that stands for nothing. -/
inductive Malformed : String → PatternFault → Prop
  /-- The first brace is not closed at the end of the segment. -/
  | unclosed {text : String} (unended : text.toList.getLast? ≠ some '}') :
      Malformed ("\x7b" ++ text) .unclosedVariable
  | nested {inner : String} (braced : ¬ Braceless inner) :
      Malformed ("\x7b" ++ inner ++ "\x7d") .nestedBraces
  | unnamed : Malformed "\x7b\x7d" .emptyVariableName
  | unnamedRest : Malformed "\x7b*\x7d" .emptyVariableName
  /-- There are braces, but not around the whole segment. -/
  | partly {text : String} (outside : text.toList.head? ≠ some '{') (braced : ¬ Braceless text) :
      Malformed text .partialVariable

variable {options : PatternOptions} {segment : String} {element : PatternElement}
  {fault : PatternFault}

theorem any_isWildcard_iff {text : String} :
    text.toList.any isWildcard = true ↔ '*' ∈ text.toList ∨ '?' ∈ text.toList := by
  simp only [isWildcard, List.any_eq_true, Bool.or_eq_true, beq_iff_eq, and_or_left, exists_or,
    exists_eq_right]

/-- A segment between two braces is read as a variable. -/
theorem parse_braced (inner : String) :
    parse options ("\x7b" ++ inner ++ "\x7d") = parseVariable inner.toList := by
  have letters : ("\x7b" ++ inner ++ "\x7d").toList = '{' :: (inner.toList ++ ['}']) := by simp
  simp only [parse, letters]
  simp

theorem parse_unclosed {text : String} (unclosed : text.toList.getLast? ≠ some '}') :
    parse options ("\x7b" ++ text) = .error .unclosedVariable := by
  have letters : ("\x7b" ++ text).toList = '{' :: text.toList := by simp
  simp only [parse, letters, if_neg unclosed]

/-- Any other segment must be free of braces. -/
theorem parse_outside (single : segment ≠ "**") (outside : segment.toList.head? ≠ some '{') :
    parse options segment =
      if segment.toList.any isBrace then .error .partialVariable
      else if segment.toList.any isWildcard then .ok (.glob (options.fold segment))
      else .ok (.literal (options.fold segment)) := by
  unfold parse
  split
  next letters => exact absurd (String.toList_inj.mp letters) single
  next inner letters => simp [letters] at outside
  next => rfl

/-- A segment is between braces, or opens one that it does not close at its end, or is a double
star, or does not open a brace. -/
theorem shape_cases (segment : String) :
    (∃ inner, segment = "\x7b" ++ inner ++ "\x7d") ∨
      (∃ text : String, segment = "\x7b" ++ text ∧ text.toList.getLast? ≠ some '}') ∨
      segment = "**" ∨ segment ≠ "**" ∧ segment.toList.head? ≠ some '{' := by
  by_cases single : segment = "**"
  · exact .inr (.inr (.inl single))
  cases letters : segment.toList with
  | nil => exact .inr (.inr (.inr ⟨single, by simp⟩))
  | cons first rest =>
    by_cases opens : first = '{'
    · subst opens
      by_cases closed : rest.getLast? = some '}'
      · refine .inl ⟨String.ofList rest.dropLast, String.toList_inj.mp ?_⟩
        obtain ⟨inner, rfl⟩ := List.getLast?_eq_some_iff.mp closed
        simp [letters]
      · refine .inr (.inl ⟨String.ofList rest, String.toList_inj.mp ?_, ?_⟩)
        · simp [letters]
        · simpa using closed
    · refine .inr (.inr (.inr ⟨single, by simpa using opens⟩))

theorem parseVariable_capture {name : String} (named : name ≠ "") (braceless : Braceless name)
    (unstarred : name.toList.head? ≠ some '*') :
    parseVariable name.toList = .ok (.capture name) := by
  unfold parseVariable
  rw [any_isBrace_eq_false_iff.mpr braceless, if_neg Bool.false_ne_true]
  split
  next letters => exact absurd (String.toList_eq_nil_iff.mp letters) named
  next letters => simp [letters] at unstarred
  next => rw [String.ofList_toList]

theorem parseVariable_captureRest {name : String} (named : name ≠ "")
    (braceless : Braceless name) :
    parseVariable ('*' :: name.toList) = .ok (.captureRest name) := by
  have plain : ('*' :: name.toList).any isBrace = false := by
    rw [List.any_cons, any_isBrace_eq_false_iff.mpr braceless]
    rfl
  rw [parseVariable, plain]
  simp [named]

theorem parse_of_spells (spells : Spells options segment element) :
    parse options segment = .ok element := by
  cases spells with
  | multi => rfl
  | capture named braceless unstarred =>
    rw [parse_braced, parseVariable_capture named braceless unstarred]
  | @captureRest name named braceless =>
    have starred : "\x7b*" ++ name = "\x7b" ++ ("*" ++ name) := by
      rw [← String.append_assoc]; rfl
    have letters : ("*" ++ name).toList = '*' :: name.toList := by simp
    rw [starred, parse_braced, letters, parseVariable_captureRest named braceless]
  | glob braceless single wild =>
    rw [parse_outside single braceless.head?_ne, any_isBrace_eq_false_iff.mpr braceless,
      any_isWildcard_iff.mpr wild]
    rfl
  | literal braceless starless markless =>
    have single : segment ≠ "**" := by
      rintro rfl
      exact starless (by decide)
    have tame : ¬ segment.toList.any isWildcard = true := by
      rw [any_isWildcard_iff]
      exact not_or.mpr ⟨starless, markless⟩
    rw [parse_outside single braceless.head?_ne, any_isBrace_eq_false_iff.mpr braceless,
      if_neg tame]
    rfl

theorem parse_of_malformed (malformed : Malformed segment fault) :
    parse options segment = .error fault := by
  cases malformed with
  | unclosed unclosed => exact parse_unclosed unclosed
  | nested braced =>
    rw [parse_braced]
    unfold parseVariable
    rw [any_isBrace_eq_true_iff.mpr braced]
    rfl
  | unnamed => rfl
  | unnamedRest => rfl
  | partly outside braced =>
    have single : segment ≠ "**" := by
      rintro rfl
      exact braced (by decide)
    rw [parse_outside single outside, any_isBrace_eq_true_iff.mpr braced]
    rfl

theorem spells_or_malformed_variable (options : PatternOptions) {inner : String}
    (braceless : Braceless inner) :
    (∃ element, Spells options ("\x7b" ++ inner ++ "\x7d") element) ∨
      ∃ fault, Malformed ("\x7b" ++ inner ++ "\x7d") fault := by
  by_cases starred : inner.toList.head? = some '*'
  · obtain ⟨rest, letters⟩ := List.head?_eq_some_iff.mp starred
    obtain rfl : inner = "*" ++ String.ofList rest := String.toList_inj.mp (by simp [letters])
    rw [← String.append_assoc]
    by_cases named : String.ofList rest = ""
    · rw [named]
      exact .inr ⟨_, .unnamedRest⟩
    · have plain : Braceless (String.ofList rest) := by simpa [Braceless] using braceless
      exact .inl ⟨_, .captureRest named plain⟩
  · by_cases named : inner = ""
    · rw [named]
      exact .inr ⟨_, .unnamed⟩
    · exact .inl ⟨_, .capture named braceless starred⟩

/-- Every segment stands for something, or something is wrong with it. -/
theorem spells_or_malformed (options : PatternOptions) (segment : String) :
    (∃ element, Spells options segment element) ∨ ∃ fault, Malformed segment fault := by
  rcases shape_cases segment with ⟨inner, rfl⟩ | ⟨text, rfl, unclosed⟩ | rfl | ⟨single, outside⟩
  · by_cases braceless : Braceless inner
    · exact spells_or_malformed_variable options braceless
    · exact .inr ⟨_, .nested braceless⟩
  · exact .inr ⟨_, .unclosed unclosed⟩
  · exact .inl ⟨_, .multi⟩
  · by_cases braceless : Braceless segment
    · by_cases wild : '*' ∈ segment.toList ∨ '?' ∈ segment.toList
      · exact .inl ⟨_, .glob braceless single wild⟩
      · obtain ⟨starless, markless⟩ := not_or.mp wild
        exact .inl ⟨_, .literal braceless starless markless⟩
    · exact .inr ⟨_, .partly outside braceless⟩

theorem parse_eq_ok_iff : parse options segment = .ok element ↔ Spells options segment element := by
  refine ⟨fun read => ?_, parse_of_spells⟩
  rcases spells_or_malformed options segment with ⟨other, spells⟩ | ⟨fault, malformed⟩
  · obtain rfl := Except.ok.inj (read.symm.trans (parse_of_spells spells))
    exact spells
  · cases read.symm.trans (parse_of_malformed malformed)

/-- The name of a capture of the rest may be a star itself. -/
example : parse {} "\x7b**\x7d" = .ok (.captureRest "*") := rfl

end PatternElement

namespace PathPattern

open PatternElement

variable {options : PatternOptions}

/-- Whether a segment captures a variable. -/
def Captures (options : PatternOptions) (segment name : String) : Prop :=
  ∃ element, Spells options segment element ∧ element.capturedName? = some name

/-- The rule that a segment breaks, given the segments in front of it and behind it. -/
inductive Breaks (options : PatternOptions) (before : List String) (segment : String)
    (after : List String) : PatternFault → Prop
  | malformed {fault : PatternFault} (wrong : Malformed segment fault) :
      Breaks options before segment after fault
  | repeated {name : String} (here : Captures options segment name)
      (there : ∃ earlier ∈ before, Captures options earlier name) :
      Breaks options before segment after (.repeatedVariable name)
  | restNotLast {name : String} (here : Spells options segment (.captureRest name))
      (new : ∀ earlier ∈ before, ¬ Captures options earlier name) (followed : after ≠ []) :
      Breaks options before segment after .restNotLast

/-- The rule that is broken by the leftmost of some segments that breaks one, given the segments in
front of them all. -/
def LeftmostFault (options : PatternOptions) (read segments : List String) (fault : PatternFault) :
    Prop :=
  ∃ before segment after, segments = before ++ segment :: after ∧
    Breaks options (read ++ before) segment after fault ∧
    ∀ front other back, segments = front ++ other :: back → front.length < before.length →
      ∀ earlier, ¬ Breaks options (read ++ front) other back earlier

/-- What the segments of a pattern have to be like, and the elements they stand for: each stands for
one, no variable is captured twice, and a capture of the rest stands last. -/
structure Conforms (options : PatternOptions) (segments : List String)
    (elements : List PatternElement) : Prop where
  spelled : List.Forall₂ (Spells options) segments elements
  distinct : (elements.filterMap (·.capturedName?)).Nodup
  restLast : RestLast elements

theorem leftmostFault_cons_iff {read rest : List String} {segment : String} {fault : PatternFault} :
    LeftmostFault options read (segment :: rest) fault ↔
      Breaks options read segment rest fault ∨
        (∀ earlier, ¬ Breaks options read segment rest earlier) ∧
          LeftmostFault options (read ++ [segment]) rest fault := by
  constructor
  · rintro ⟨before, other, after, divided, breaks, first⟩
    cases before with
    | nil =>
      obtain ⟨rfl, rfl⟩ := List.cons.inj divided
      exact .inl (by simpa using breaks)
    | cons head before =>
      obtain ⟨rfl, rfl⟩ := List.cons.inj divided
      refine .inr ⟨by simpa using first [] segment _ rfl (Nat.succ_pos _), before, other, after, rfl,
        by simpa using breaks, ?_⟩
      intro front earlier back divided shorter
      simpa using first (segment :: front) earlier back (congrArg (segment :: ·) divided)
        (Nat.succ_lt_succ shorter)
  · rintro (breaks | ⟨sound, before, other, after, rfl, breaks, first⟩)
    · exact ⟨[], segment, rest, rfl, by simpa using breaks, by simp⟩
    · refine ⟨segment :: before, other, after, rfl, by simpa using breaks, ?_⟩
      intro front earlier back divided shorter
      cases front with
      | nil =>
        obtain ⟨rfl, rfl⟩ := List.cons.inj divided
        simpa using sound
      | cons head front =>
        obtain ⟨rfl, behind⟩ := List.cons.inj divided
        simpa using first front earlier back behind (Nat.lt_of_succ_lt_succ shorter)

theorem captures_iff {segment name : String} {element : PatternElement}
    (spells : Spells options segment element) :
    Captures options segment name ↔ element.capturedName? = some name := by
  constructor
  · rintro ⟨other, otherSpells, captured⟩
    have same := (parse_of_spells spells).symm.trans (parse_of_spells otherSpells)
    obtain rfl := Except.ok.inj same
    exact captured
  · exact fun captured => ⟨element, spells, captured⟩

/-- Whether names are those captured by segments that have been read. -/
def AreCaptured (options : PatternOptions) (read seen : List String) : Prop :=
  ∀ name, name ∈ seen ↔ ∃ earlier ∈ read, Captures options earlier name

theorem AreCaptured.concat {read seen : List String} {segment : String} {element : PatternElement}
    (known : AreCaptured options read seen) (spells : Spells options segment element) :
    AreCaptured options (read ++ [segment]) (seen ++ element.capturedName?.toList) := by
  intro name
  simp only [List.mem_append, known name, Option.mem_toList, List.mem_singleton, or_and_right,
    exists_or, exists_eq_left, captures_iff spells]

section Step

variable {read seen rest : List String} {segment : String} {fault : PatternFault}
  (known : AreCaptured options read seen)

include known

theorem parseElements_of_breaks (breaks : Breaks options read segment rest fault) :
    parseElements options seen (segment :: rest) = .error fault := by
  cases breaks with
  | malformed wrong =>
    rw [parseElements, parse_of_malformed wrong]
    rfl
  | @repeated name here there =>
    obtain ⟨element, spells, captured⟩ := here
    rw [parseElements, parse_of_spells spells, ok_bind, captured]
    simp only [if_pos ((known name).mpr there)]
    rfl
  | @restNotLast name here new followed =>
    have fresh : name ∉ seen := fun repeated => by
      obtain ⟨earlier, member, captured⟩ := (known name).mp repeated
      exact new earlier member captured
    obtain ⟨next, later, rfl⟩ := List.exists_cons_of_ne_nil followed
    rw [parseElements, parse_of_spells here, ok_bind]
    simp only [capturedName?, if_neg fresh]
    rfl

theorem parseElements_of_sound (sound : ∀ fault, ¬ Breaks options read segment rest fault) :
    ∃ element, Spells options segment element ∧
      parseElements options seen (segment :: rest) =
        (element :: ·) <$> parseElements options (seen ++ element.capturedName?.toList) rest := by
  rcases spells_or_malformed options segment with ⟨element, spells⟩ | ⟨fault, malformed⟩
  · refine ⟨element, spells, ?_⟩
    have new : ∀ name, element.capturedName? = some name → name ∉ seen := by
      intro name captured repeated
      exact sound _ (.repeated ⟨element, spells, captured⟩ ((known name).mp repeated))
    rw [parseElements, parse_of_spells spells, ok_bind]
    cases element with
    | captureRest name =>
      have fresh := new name rfl
      have last : rest = [] := by
        by_contra followed
        refine sound _ (.restNotLast spells (fun earlier member captured => ?_) followed)
        exact fresh ((known name).mpr ⟨earlier, member, captured⟩)
      subst last
      simp [capturedName?, fresh]
    | capture name => simp [capturedName?, new name rfl]
    | _ => simp [capturedName?]
  · exact absurd (.malformed malformed) (sound fault)

end Step

theorem parseElements_eq_error_iff {read seen segments : List String} {fault : PatternFault}
    (known : AreCaptured options read seen) :
    parseElements options seen segments = .error fault ↔
      LeftmostFault options read segments fault := by
  induction segments generalizing read seen with
  | nil =>
    constructor
    · intro impossible
      cases impossible
    · rintro ⟨before, segment, after, impossible, _⟩
      simp at impossible
  | cons segment rest ih =>
    rw [leftmostFault_cons_iff]
    by_cases broken : ∃ earlier, Breaks options read segment rest earlier
    · obtain ⟨earlier, breaks⟩ := broken
      have refused := parseElements_of_breaks known breaks
      constructor
      · intro failed
        obtain rfl := Except.error.inj (refused.symm.trans failed)
        exact .inl breaks
      · rintro (decisive | ⟨sound, _⟩)
        · exact parseElements_of_breaks known decisive
        · exact absurd breaks (sound earlier)
    · have sound := not_exists.mp broken
      obtain ⟨element, spells, same⟩ := parseElements_of_sound known sound
      have step := ih (known.concat spells)
      rw [same, map_eq_error_iff, step]
      exact ⟨fun later => .inr ⟨sound, later⟩, fun either => either.elim
        (fun breaks => absurd breaks (sound fault)) And.right⟩

theorem filterMap_capturedName?_cons (element : PatternElement) (elements : List PatternElement) :
    (element :: elements).filterMap (·.capturedName?) =
      element.capturedName?.toList ++ elements.filterMap (·.capturedName?) := by
  rw [List.filterMap_cons]
  cases element.capturedName? <;> rfl

theorem nodup_append_toList_iff {seen : List String} (captured : Option String) :
    (seen ++ captured.toList).Nodup ↔ seen.Nodup ∧ ∀ name, captured = some name → name ∉ seen := by
  cases captured with
  | none => simp
  | some name => simp [List.nodup_append, List.forall_mem_ne']

theorem parseElements_eq_ok_iff {seen segments : List String} {elements : List PatternElement}
    (distinct : seen.Nodup) :
    parseElements options seen segments = .ok elements ↔
      List.Forall₂ (Spells options) segments elements ∧
        (seen ++ elements.filterMap (·.capturedName?)).Nodup ∧ RestLast elements := by
  induction segments generalizing seen elements with
  | nil =>
    constructor
    · intro read
      cases read
      refine ⟨.nil, by simpa using distinct, ?_⟩
      intro before name after same
      simp at same
    · rintro ⟨spelled, _⟩
      cases spelled
      rfl
  | cons segment rest ih =>
    rw [parseElements_cons_eq_ok_iff]
    constructor
    · rintro ⟨element, read, new, last, later, readLater, rfl⟩
      have more := (nodup_append_toList_iff element.capturedName?).mpr ⟨distinct, new⟩
      obtain ⟨spelled, names, restLast⟩ := (ih more).mp readLater
      have spells := PatternElement.parse_eq_ok_iff.mp read
      refine ⟨.cons spells spelled, ?_, restLast_cons.mpr ⟨?_, restLast⟩⟩
      · rwa [filterMap_capturedName?_cons, ← List.append_assoc]
      · rintro name rfl
        obtain rfl := last name rfl
        exact List.forall₂_nil_left_iff.mp spelled
    · rintro ⟨spelled, names, restLast⟩
      obtain ⟨element, later, spells, spelledLater, rfl⟩ := List.forall₂_cons_left_iff.mp spelled
      obtain ⟨last, restLater⟩ := restLast_cons.mp restLast
      rw [filterMap_capturedName?_cons, ← List.append_assoc] at names
      have more := (List.nodup_append.mp names).1
      obtain ⟨_, new⟩ := (nodup_append_toList_iff element.capturedName?).mp more
      refine ⟨element, parse_of_spells spells, new, ?_, later,
        (ih more).mpr ⟨spelledLater, names, restLater⟩, rfl⟩
      rintro name same
      rw [last name same] at spelledLater
      exact List.forall₂_nil_right_iff.mp spelledLater

/-- Whether the segments of a text are those of a pattern. -/
def IsPattern (options : PatternOptions) (text : String) : Prop :=
  ∃ elements, Conforms options (Text.segments text) elements

theorem parse_eq_ok_iff_conforms {text : String} {pattern : PathPattern} :
    parse options text = .ok pattern ↔
      ∃ elements, Conforms options (Text.segments text) elements ∧
        ⟨text, elements, Text.opensWith '/' text, Text.closesWith '/' (Text.dropOpening '/' text),
          options⟩ = pattern := by
  rw [parse_eq_ok_iff, segments_dropOpening]
  refine exists_congr fun elements => and_congr_left fun _ => ?_
  rw [parseElements_eq_ok_iff List.nodup_nil, List.nil_append]
  exact ⟨fun ⟨spelled, distinct, last⟩ => ⟨spelled, distinct, last⟩,
    fun conforms => ⟨conforms.spelled, conforms.distinct, conforms.restLast⟩⟩

theorem exists_parse_eq_ok_iff {text : String} :
    (∃ pattern, parse options text = .ok pattern) ↔ IsPattern options text := by
  simp only [parse_eq_ok_iff_conforms, IsPattern]
  exact ⟨fun ⟨_, elements, conforms, _⟩ => ⟨elements, conforms⟩,
    fun ⟨elements, conforms⟩ => ⟨_, elements, conforms, rfl⟩⟩

theorem parse_eq_error_iff {text : String} {error : RoutingError} :
    parse options text = .error error ↔
      ∃ fault, LeftmostFault options [] (Text.segments text) fault ∧
        error = .invalidPattern text fault.reason := by
  have known : AreCaptured options [] [] := by simp [AreCaptured]
  rw [parse, mapError_eq_error_iff]
  refine exists_congr fun fault => and_congr ?_ eq_comm
  rw [← parseElements_eq_error_iff known, parse?, bind_eq_error_iff, segments_dropOpening]
  refine or_iff_left ?_
  rintro ⟨elements, _, impossible⟩
  cases impossible

end PathPattern

end RouteProbe
