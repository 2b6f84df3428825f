import RouteProbe.Proofs.Path.NormalForms
import RouteProbe.Proofs.Pattern.Acceptance
import RouteProbe.Proofs.Pattern.GlobCase

/-! # Patterns without regard to case

A pattern that is read without regard to case has its literals and globs in lower case and is
otherwise the same (`PathPattern.parse_lowercased`). It ought to match whatever it matches
otherwise. All that can be in the way are its globs: whatever they make of one segment, some path
brings to light. Main statement: `PathPattern.relaxes_iff`.
-/

namespace RouteProbe

/-- An element as it is read without regard to case. -/
def PatternElement.lowercased : PatternElement → PatternElement
  | literal text => .literal (Text.lowercase text)
  | glob text => .glob (Text.lowercase text)
  | element => element

/-- A pattern as it is read without regard to case. -/
def PathPattern.lowercased (pattern : PathPattern) : PathPattern :=
  { pattern with
    elements := pattern.elements.map .lowercased
    options := { pattern.options with caseSensitive := false } }

section Reading

variable {optional : Bool} {element : PatternElement} {elements : List PatternElement}

@[simp] theorem PatternElement.capturedName?_lowercased (element : PatternElement) :
    element.lowercased.capturedName? = element.capturedName? := by
  cases element <;> rfl

@[simp] theorem PatternElement.isOpen_lowercased (element : PatternElement) :
    element.lowercased.isOpen = element.isOpen := by
  cases element <;> rfl

theorem PatternElement.spells_lowercased {segment : String}
    (spells : Spells ⟨true, optional⟩ segment element) :
    Spells ⟨false, optional⟩ segment element.lowercased := by
  cases spells with
  | multi => exact .multi
  | capture named braceless unstarred => exact .capture named braceless unstarred
  | captureRest named braceless => exact .captureRest named braceless
  | glob braceless single wild => exact .glob braceless single wild
  | literal braceless starless markless => exact .literal braceless starless markless

theorem restLast_lowercased (last : RestLast elements) : RestLast (elements.map .lowercased) := by
  induction elements with
  | nil => exact last
  | cons element elements ih =>
    obtain ⟨head, tail⟩ := restLast_cons.mp last
    refine restLast_cons.mpr ⟨?_, ih tail⟩
    intro name same
    cases element with
    | captureRest other => rw [head other rfl, List.map_nil]
    | _ => cases same

/-- Whatever is a pattern otherwise is one without regard to case. -/
theorem PathPattern.Conforms.lowercased {segments : List String}
    (conforms : Conforms ⟨true, optional⟩ segments elements) :
    Conforms ⟨false, optional⟩ segments (elements.map .lowercased) where
  spelled := List.forall₂_map_right_iff.mpr
    (conforms.spelled.imp fun _ _ => PatternElement.spells_lowercased)
  distinct := by
    have names := conforms.distinct
    rw [List.filterMap_map]
    simpa only [Function.comp_def, PatternElement.capturedName?_lowercased] using names
  restLast := restLast_lowercased conforms.restLast

theorem PathPattern.parse_lowercased {text : String} {pattern : PathPattern}
    (read : parse ⟨true, optional⟩ text = .ok pattern) :
    parse ⟨false, optional⟩ text = .ok pattern.lowercased := by
  obtain ⟨elements, conforms, rfl⟩ := parse_eq_ok_iff_conforms.mp read
  exact parse_eq_ok_iff_conforms.mpr ⟨_, conforms.lowercased, rfl⟩

/-- A pattern wants the same slashes at both ends. -/
theorem PathPattern.fitsEnds_lowercased (pattern : PathPattern) (path : String) :
    pattern.lowercased.fitsEnds path = pattern.fitsEnds path := by
  have same : pattern.lowercased.endsOpen = pattern.endsOpen := by
    simp only [endsOpen, lowercased, List.getLast?_map]
    cases pattern.elements.getLast? with
    | none => rfl
    | some element => exact element.isOpen_lowercased
  simp only [fitsEnds, same]
  rfl

end Reading

section Sharing

variable {optional : Bool} {options : PatternOptions} {element : PatternElement}
  {elements : List PatternElement} {segment : String} {segments : List String}
  {runs : List (List String)}

/-- An element that takes a segment takes it without regard to case, unless it is a glob that does
not relax there. -/
theorem PatternElement.takesOne_lowercased
    (relaxes : ∀ glob, element = .glob glob → Glob.RelaxesOn glob segment)
    (taken : element.takesOne ⟨true, optional⟩ segment = true) :
    element.lowercased.takesOne ⟨false, optional⟩ segment = true := by
  cases element with
  | literal text =>
    have same : segment = text := beq_iff_eq.mp taken
    exact beq_iff_eq.mpr (congrArg Text.lowercase same)
  | glob text => exact relaxes text rfl taken
  | capture => rfl
  | captureRest => cases taken
  | multi => cases taken

/-- Segments are shared out without regard to case as they are otherwise, if all globs relax on
them. -/
theorem SharesOut.lowercased (sharing : SharesOut ⟨true, optional⟩ elements segments runs)
    (relaxes : ∀ glob, .glob glob ∈ elements → ∀ segment ∈ segments, Glob.RelaxesOn glob segment) :
    SharesOut ⟨false, optional⟩ (elements.map .lowercased) segments runs := by
  induction sharing with
  | done => exact .done
  | one taken _ ih =>
    refine .one (PatternElement.takesOne_lowercased ?_ taken) (ih ?_)
    · rintro glob rfl
      exact relaxes glob List.mem_cons_self _ List.mem_cons_self
    · intro glob listed segment member
      exact relaxes glob (List.mem_cons_of_mem _ listed) segment (List.mem_cons_of_mem _ member)
  | captureRest _ ih => exact .captureRest (ih fun _ _ _ impossible => by cases impossible)
  | multi run _ ih =>
    refine .multi run (ih ?_)
    intro glob listed segment member
    exact relaxes glob (List.mem_cons_of_mem _ listed) segment (List.mem_append_right run member)

/-- The elements that stand for exactly one segment each. -/
def closedElements (elements : List PatternElement) : List PatternElement :=
  elements.filter fun element => !element.isOpen

theorem closedElements_cons_of_takesOne (taken : element.takesOne options segment = true)
    (elements : List PatternElement) :
    closedElements (element :: elements) = element :: closedElements elements := by
  cases element with
  | captureRest | multi => cases taken
  | _ => rfl

/-- In a sharing each element that stands for one segment has taken one, in order. -/
theorem SharesOut.exists_taken (sharing : SharesOut options elements segments runs) :
    ∃ taken : List String, taken.Sublist segments ∧
      List.Forall₂ (fun element segment => element.takesOne options segment = true)
        (closedElements elements) taken := by
  induction sharing with
  | done => exact ⟨[], .slnil, .nil⟩
  | @one element segment _ _ _ takes _ ih =>
    obtain ⟨taken, sublist, all⟩ := ih
    rw [closedElements_cons_of_takesOne takes]
    exact ⟨segment :: taken, sublist.cons_cons segment, .cons takes all⟩
  | captureRest _ ih =>
    obtain ⟨taken, sublist, all⟩ := ih
    exact ⟨taken, sublist.trans (List.nil_sublist _), all⟩
  | multi run _ ih =>
    obtain ⟨taken, sublist, all⟩ := ih
    exact ⟨taken, sublist.trans (List.sublist_append_right run _), all⟩

/-- If the elements that stand for one segment each take the segments in order, the others can do
without any. -/
theorem exists_sharesOut_of_taken (last : RestLast elements)
    (taken : List.Forall₂ (fun element segment => element.takesOne options segment = true)
      (closedElements elements) segments) :
    ∃ runs, SharesOut options elements segments runs := by
  induction elements generalizing segments with
  | nil =>
    cases taken
    exact ⟨[], .done⟩
  | cons element elements ih =>
    obtain ⟨head, tail⟩ := restLast_cons.mp last
    cases element with
    | captureRest name =>
      obtain rfl := head name rfl
      cases taken
      exact ⟨_, .captureRest .done⟩
    | multi =>
      obtain ⟨runs, sharing⟩ := ih tail taken
      exact ⟨_, .multi [] sharing⟩
    | _ =>
      obtain ⟨segment, rest, takes, later, rfl⟩ := List.forall₂_cons_left_iff.mp taken
      obtain ⟨runs, sharing⟩ := ih tail later
      exact ⟨_, .one takes sharing⟩

theorem PathPattern.isMatch_iff {pattern : PathPattern} (last : RestLast pattern.elements)
    (path : String) :
    pattern.isMatch path = true ↔ pattern.fitsEnds path = true ∧
      ∃ runs, SharesOut pattern.options pattern.elements (Text.segments path) runs := by
  rw [isMatch, match?_eq_firstSharing?]
  by_cases fits : pattern.fitsEnds path = true
  · rw [if_pos fits, Option.isSome_map, Option.isSome_iff_exists]
    refine ⟨fun ⟨runs, found⟩ => ⟨fits, runs, sharesOut_of_firstSharing? last found⟩, ?_⟩
    rintro ⟨_, _, sharing⟩
    obtain ⟨runs, found, _⟩ := sharing.exists_firstSharing? last
    exact ⟨runs, found⟩
  · rw [if_neg fits]
    constructor
    · intro impossible
      cases impossible
    · rintro ⟨fitting, _⟩
      exact absurd fitting fits

end Sharing

section Paths

/-- Any segments are those of some path, with or without a slash at either end. -/
theorem exists_path {segments : List String} (nonempty : segments ≠ [])
    (single : ∀ segment ∈ segments, Text.IsSegment segment) (leading trailing : Bool) :
    ∃ path, Text.segments path = segments ∧ Text.opensWith '/' path = leading ∧
      Text.closesWith '/' (Text.dropOpening '/' path) = trailing := by
  have filled : ∀ piece ∈ segments.map String.toList, piece ≠ [] := by
    intro piece member empty
    obtain ⟨segment, listed, rfl⟩ := List.mem_map.mp member
    exact (single segment listed).1 (String.toList_eq_nil_iff.mp empty)
  have free : ∀ piece ∈ segments.map String.toList, '/' ∉ piece := by
    intro piece member
    obtain ⟨segment, listed, rfl⟩ := List.mem_map.mp member
    exact (single segment listed).2
  have pieces := filter_cut_flatMap filled free trailing
  have closes := closesWith_flatMap filled free trailing
  obtain ⟨first, rest, rfl⟩ := List.exists_cons_of_ne_nil nonempty
  obtain ⟨c, others, letters⟩ :=
    List.exists_cons_of_ne_nil (filled first.toList (List.mem_map_of_mem List.mem_cons_self))
  have different : c ≠ '/' := by
    rintro rfl
    exact free first.toList (List.mem_map_of_mem List.mem_cons_self) (letters ▸ List.mem_cons_self)
  obtain ⟨tail, whole⟩ : ∃ tail, (((first :: rest).map String.toList).flatMap ('/' :: ·) ++
      if trailing then ['/'] else []) = '/' :: c :: tail := by
    rw [List.map_cons, List.flatMap_cons, letters]
    exact ⟨_, rfl⟩
  rw [whole] at pieces closes
  have cutUp : Text.segments (String.ofList ('/' :: c :: tail)) = first :: rest := by
    rw [segments_eq, String.toList_ofList, pieces, List.map_map]
    simp
  have dropped : Text.dropOpening '/' (String.ofList ('/' :: c :: tail)) =
      String.ofList (c :: tail) := by simp [Text.dropOpening]
  have kept : Text.dropOpening '/' (String.ofList (c :: tail)) = String.ofList (c :: tail) := by
    simp [Text.dropOpening, different]
  have ended : Text.closesWith '/' (String.ofList (c :: tail)) = trailing := by
    rwa [Text.closesWith, String.toList_ofList, ← List.getLast?_cons_cons]
  cases leading with
  | false =>
    refine ⟨String.ofList (c :: tail), ?_, ?_, by rw [kept, ended]⟩
    · rw [← dropped, segments_dropOpening, cutUp]
    · simp [Text.opensWith, different]
  | true =>
    refine ⟨String.ofList ('/' :: c :: tail), cutUp, ?_, by rw [dropped, ended]⟩
    simp [Text.opensWith]

end Paths

section Globs

variable {optional : Bool} {options : PatternOptions} {element : PatternElement}
  {elements : List PatternElement} {glob segment : String} {segments : List String}

/-- A segment for an element to take: a certain one for a certain glob, and for all others the text
they were read from. -/
def PatternElement.sample (glob segment : String) : PatternElement → String
  | literal text => text
  | .glob text => if text = glob then segment else text
  | _ => "x"

theorem PatternElement.takesOne_sample (accepted : Glob.isMatch glob segment = true)
    (closed : element.isOpen = false) :
    element.takesOne ⟨true, optional⟩ (element.sample glob segment) = true := by
  cases element with
  | literal text => exact beq_self_eq_true text
  | glob text =>
    change Glob.isMatch text (if text = glob then segment else text) = true
    split
    next same => rwa [same]
    next =>
      have own := Glob.Reads.done.append_left text.toList
      rw [List.append_nil] at own
      exact (Glob.isMatch_iff_reads text text).mpr own
  | capture => rfl
  | captureRest | multi => cases closed

theorem exists_spells_of_mem
    (spelled : List.Forall₂ (PatternElement.Spells options) segments elements)
    (member : element ∈ elements) :
    ∃ segment ∈ segments, PatternElement.Spells options segment element := by
  induction spelled with
  | nil => cases member
  | @cons segment _ segments _ spells _ ih =>
    rcases List.mem_cons.mp member with rfl | later
    · exact ⟨segment, List.mem_cons_self, spells⟩
    · obtain ⟨other, listed, otherSpells⟩ := ih later
      exact ⟨other, List.mem_cons_of_mem segment listed, otherSpells⟩

/-- The samples for the elements of a pattern can all be segments. -/
theorem PatternElement.isSegment_sample {text : String}
    (spelled : List.Forall₂ (Spells ⟨true, optional⟩) (Text.segments text) elements)
    (single : Text.IsSegment segment) (member : element ∈ elements) :
    Text.IsSegment (element.sample glob segment) := by
  obtain ⟨origin, listed, spells⟩ := exists_spells_of_mem spelled member
  have own := Text.isSegment_of_mem_segments listed
  have other : Text.IsSegment "x" := ⟨by decide, by decide⟩
  cases spells with
  | literal => exact own
  | glob =>
    change Text.IsSegment (if origin = glob then segment else origin)
    split
    · exact single
    · exact own
  | multi | capture | captureRest => exact other

theorem closedElements_lowercased (elements : List PatternElement) :
    closedElements (elements.map .lowercased) = (closedElements elements).map .lowercased := by
  simp only [closedElements, List.filter_map, Function.comp_def, PatternElement.isOpen_lowercased]

namespace PathPattern

variable {text : String} {pattern : PathPattern}

/-- A pattern whose globs relax on the segments of a path matches it without regard to case if it
does otherwise. -/
theorem isMatch_lowercased (read : parse ⟨true, optional⟩ text = .ok pattern) (path : String)
    (relaxes : ∀ glob, .glob glob ∈ pattern.elements → ∀ segment ∈ Text.segments path,
      Glob.RelaxesOn glob segment)
    (matched : pattern.isMatch path = true) : pattern.lowercased.isMatch path = true := by
  obtain ⟨elements, conforms, rfl⟩ := parse_eq_ok_iff_conforms.mp read
  obtain ⟨fits, runs, sharing⟩ := (isMatch_iff conforms.restLast path).mp matched
  refine (isMatch_iff (restLast_lowercased conforms.restLast) path).mpr ⟨?_, runs, ?_⟩
  · rw [fitsEnds_lowercased, fits]
  · exact sharing.lowercased relaxes

/-- If a pattern matches without regard to case whatever it matches otherwise, its globs relax on
every segment: on a path that is made for it, which the double stars can do without, all elements
have to take their samples. -/
theorem relaxesOn_of_relaxes (read : parse ⟨true, optional⟩ text = .ok pattern)
    (relaxes : ∀ path, pattern.isMatch path = true → pattern.lowercased.isMatch path = true)
    (listed : .glob glob ∈ pattern.elements) (single : Text.IsSegment segment) :
    Glob.RelaxesOn glob segment := by
  intro accepted
  obtain ⟨elements, conforms, rfl⟩ := parse_eq_ok_iff_conforms.mp read
  have closed : .glob glob ∈ closedElements elements := List.mem_filter.mpr ⟨listed, rfl⟩
  have taken : List.Forall₂
      (fun (element : PatternElement) segment => element.takesOne ⟨true, optional⟩ segment = true)
      (closedElements elements) ((closedElements elements).map (·.sample glob segment)) := by
    refine List.forall₂_map_right_iff.mpr (List.forall₂_same.mpr fun element member => ?_)
    have closed := (List.mem_filter.mp member).2
    exact PatternElement.takesOne_sample accepted (by simpa using closed)
  have filled : (closedElements elements).map (·.sample glob segment) ≠ [] :=
    List.ne_nil_of_mem (List.mem_map_of_mem closed)
  have segments : ∀ sample ∈ (closedElements elements).map (·.sample glob segment),
      Text.IsSegment sample := by
    refine List.forall_mem_map.mpr fun element member => ?_
    exact PatternElement.isSegment_sample conforms.spelled single (List.mem_filter.mp member).1
  obtain ⟨path, cutUp, opens, closes⟩ := exists_path filled segments (Text.opensWith '/' text)
    (Text.closesWith '/' (Text.dropOpening '/' text))
  have matched : isMatch ⟨text, elements, Text.opensWith '/' text,
      Text.closesWith '/' (Text.dropOpening '/' text), ⟨true, optional⟩⟩ path = true := by
    refine (isMatch_iff conforms.restLast path).mpr ⟨by simp [fitsEnds, opens, closes], ?_⟩
    rw [cutUp]
    exact exists_sharesOut_of_taken conforms.restLast taken
  obtain ⟨_, runs, sharing⟩ :=
    (isMatch_iff (restLast_lowercased conforms.restLast) path).mp (relaxes path matched)
  rw [cutUp] at sharing
  obtain ⟨aligned, sublist, all⟩ := sharing.exists_taken
  change List.Forall₂ _ (closedElements (elements.map .lowercased)) aligned at all
  rw [closedElements_lowercased] at all
  have lengths := all.length_eq
  rw [List.length_map] at lengths
  obtain rfl := sublist.eq_of_length (by rw [← lengths, List.length_map])
  rw [List.forall₂_map_left_iff, List.forall₂_map_right_iff, List.forall₂_same] at all
  have read := all (.glob glob) closed
  change Glob.isMatch (Text.lowercase glob)
    (Text.lowercase (if glob = glob then segment else glob)) = true at read
  rwa [if_pos rfl] at read

/-- Without regard to case a pattern matches what it matches otherwise, wherever its globs relax on
the segments. It does so on all paths if and only if its globs relax on all segments, and as far as
question marks are spared, a glob does exactly if its sigmas are settled. -/
theorem relaxes_iff (read : parse ⟨true, optional⟩ text = .ok pattern) :
    ∃ loose, parse ⟨false, optional⟩ text = .ok loose ∧
      (∀ path, (∀ glob, .glob glob ∈ pattern.elements → ∀ segment ∈ Text.segments path,
          Glob.RelaxesOn glob segment) →
        pattern.isMatch path = true → loose.isMatch path = true) ∧
      ((∀ path, pattern.isMatch path = true → loose.isMatch path = true) ↔
        ∀ glob, .glob glob ∈ pattern.elements → ∀ segment, Text.IsSegment segment →
          Glob.RelaxesOn glob segment) ∧
      ∀ glob, .glob glob ∈ pattern.elements →
        ((∀ segment : String, Text.IsSegment segment →
            Glob.MarksSpared glob.toList segment.toList → Glob.RelaxesOn glob segment) ↔
          Glob.SigmasSettled [] glob.toList) := by
  refine ⟨_, parse_lowercased read, fun path => isMatch_lowercased read path, ⟨?_, ?_⟩, ?_⟩
  · intro relaxes glob listed segment single
    exact relaxesOn_of_relaxes read relaxes listed single
  · intro relaxes path
    refine isMatch_lowercased read path fun glob listed segment member => ?_
    exact relaxes glob listed segment (Text.isSegment_of_mem_segments member)
  · intro glob listed
    obtain ⟨elements, conforms, rfl⟩ := parse_eq_ok_iff_conforms.mp read
    obtain ⟨origin, member, spells⟩ := exists_spells_of_mem conforms.spelled listed
    cases spells with
    | glob => exact Glob.relaxesOn_iff_settled (Text.isSegment_of_mem_segments member)

section

private abbrev pictures : PathPattern :=
  ⟨"/{album}/*.PNG", [.capture "album", .glob "*.PNG"], true, false, {}⟩

/-- A glob without sigmas and question marks relaxes everywhere, and so does a pattern whose other
elements are no globs. -/
theorem relaxes_iff_pictures :
    parse ⟨true, false⟩ "/{album}/*.PNG" = .ok pictures ∧
      ∃ loose, parse ⟨false, false⟩ "/{album}/*.PNG" = .ok loose ∧
        ∀ path, pictures.isMatch path = true → loose.isMatch path = true := by
  have read : parse ⟨true, false⟩ "/{album}/*.PNG" = .ok pictures := by rfl
  obtain ⟨loose, looseRead, _, everywhere, globs⟩ := relaxes_iff read
  refine ⟨read, loose, looseRead, everywhere.mpr ?_⟩
  intro glob listed segment single
  obtain rfl : glob = "*.PNG" := by simpa using listed
  refine (globs _ listed).mpr ?_ segment single ?_
  · intro start rest divided _
    have member : 'Σ' ∈ "*.PNG".toList := divided ▸ List.mem_append_right start List.mem_cons_self
    exact absurd member (by decide)
  · exact fun marked => absurd marked (by decide)

/-- A question mark takes one character, which a dotted capital I is not any more without regard to
case. -/
theorem relaxes_not_dotted :
    ∃ strict loose, parse ⟨true, false⟩ "/?" = .ok strict ∧ parse ⟨false, false⟩ "/?" = .ok loose ∧
      strict.isMatch "/İ" = true ∧ loose.isMatch "/İ" = false := by
  refine ⟨_, _, rfl, rfl, ?_, ?_⟩
  · decide +kernel
  · decide +kernel

end

end PathPattern

end Globs

end RouteProbe
