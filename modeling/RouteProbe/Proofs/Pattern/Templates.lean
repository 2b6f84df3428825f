import RouteProbe.Proofs.Pattern.Acceptance
import RouteProbe.Proofs.Text.Pieces

/-! # Templates

A pattern of literals and captures is a template: with texts filled in for its variables it is a
path. Both directions meet in the runs of segments that the elements take: what is filled in is
shared out as it was assigned (`sharesOut_filledRuns`), and what is bound is filled in as it was
shared out (`filledRuns_eq_of_sharesOut`). Main statement: `PathPattern.match?_fill_roundTrip`, also
for texts without braces, stars and question marks, which are templates without variables.
-/

namespace RouteProbe

open PatternElement (Spells)

/-- A segment of a template, its variable filled in. -/
def fillSegment (values : String → String) (segment : String) : String :=
  match segment.toList with
  | '{' :: '*' :: name =>
    if name.getLast? = some '}' then values (String.ofList name.dropLast) else segment
  | '{' :: name =>
    if name.getLast? = some '}' then values (String.ofList name.dropLast) else segment
  | _ => segment

/-- A template with its variables filled in. -/
def fill (values : String → String) (text : String) : String :=
  Text.join "/" ((Text.pieces '/' text).map (fillSegment values))

/-- Whether an element belongs in a template. -/
inductive PatternElement.Templated : PatternElement → Prop
  | literal (text : String) : Templated (.literal text)
  | capture (name : String) : Templated (.capture name)
  | captureRest (name : String) : Templated (.captureRest name)

/-- Whether there are only literals and captures among the elements. -/
def IsTemplate (elements : List PatternElement) : Prop :=
  ∀ element ∈ elements, element.Templated

/-- Segments for the variables of a template: one for a capture, any number for a capture of the
rest. -/
structure Suits (elements : List PatternElement) (values : String → List String) : Prop where
  one : ∀ name, .capture name ∈ elements → ∃ value, values name = [value] ∧ Text.IsSegment value
  rest : ∀ name, .captureRest name ∈ elements → ∀ value ∈ values name, Text.IsSegment value

/-- The texts to fill in for variables that stand for these segments. -/
def joined (values : String → List String) (name : String) : String := Text.join "/" (values name)

theorem joined_of_eq_singleton {values : String → List String} {name value : String}
    (stands : values name = [value]) : joined values name = value := by
  rw [joined, stands]
  rfl

/-- What an element ought to bind, given the segments for its variable. -/
def PatternElement.assigned? (values : String → List String) :
    PatternElement → Option (String × String)
  | capture name => some (name, joined values name)
  | captureRest name => some (name, if values name = [] then "" else "/" ++ joined values name)
  | _ => none

/-- The texts to fill in for variables that are bound. -/
def Bindings.value (bindings : Bindings) (name : String) : String := (bindings.get? name).getD ""

theorem Bindings.value_of_mem {bindings : Bindings} (distinct : bindings.names.Nodup)
    {name value : String} (bound : (name, value) ∈ bindings.entries) : bindings.value name = value := by
  obtain ⟨before, after, divided⟩ := List.append_of_mem bound
  have earlier : ∀ entry ∈ before, (name != entry.1) = true := by
    intro entry member
    rw [names, divided, List.map_append, List.map_cons] at distinct
    have apart := (List.nodup_append.mp distinct).2.2 entry.1 (List.mem_map_of_mem member) name
      List.mem_cons_self
    exact bne_iff_ne.mpr apart.symm
  have found : bindings.get? name = some value :=
    List.lookup_eq_some_iff.mpr ⟨before, after, divided, earlier⟩
  rw [Bindings.value, found]
  rfl

/-- Whether a text is free of all characters that mean something in patterns. -/
def IsPlain (text : String) : Prop := ∀ c ∈ ['{', '}', '*', '?'], c ∉ text.toList

section Filling

variable {options : PatternOptions} {values : String → String} {segment text : String}
  {element : PatternElement}

theorem fillSegment_outside (outside : segment.toList.head? ≠ some '{') :
    fillSegment values segment = segment := by
  unfold fillSegment
  split
  next letters => simp [letters] at outside
  next letters => simp [letters] at outside
  next => rfl

theorem fillSegment_capture {name : String} (unstarred : name.toList.head? ≠ some '*') :
    fillSegment values ("\x7b" ++ name ++ "\x7d") = values name := by
  have letters : ("\x7b" ++ name ++ "\x7d").toList = '{' :: (name.toList ++ ['}']) := by simp
  unfold fillSegment
  rw [letters]
  split
  next starred =>
    cases first : name.toList with
    | nil => simp [first] at starred
    | cons c rest => simp_all
  next rest _ same =>
    obtain rfl := (List.cons.inj same).2
    simp
  next other => exact absurd rfl (other _)

theorem fillSegment_captureRest (name : String) :
    fillSegment values ("\x7b*" ++ name ++ "\x7d") = values name := by
  have letters : ("\x7b*" ++ name ++ "\x7d").toList = '{' :: '*' :: (name.toList ++ ['}']) := by simp
  simp [fillSegment, letters]

theorem fillSegment_of_spells (spells : Spells options segment element) :
    fillSegment values segment = (element.capturedName?.map values).getD segment := by
  cases spells with
  | multi => rfl
  | capture _ _ unstarred => exact fillSegment_capture unstarred
  | captureRest => exact fillSegment_captureRest _
  | glob braceless => exact fillSegment_outside braceless.head?_ne
  | literal braceless => exact fillSegment_outside braceless.head?_ne

theorem fill_slash (values : String → String) (body : String) :
    fill values ("/" ++ body) = "/" ++ fill values body := by
  have pieces : Text.pieces '/' ("/" ++ body) = "" :: Text.pieces '/' body := by
    simp [Text.pieces, Text.cut]
  obtain ⟨first, rest, cut⟩ := List.exists_cons_of_ne_nil (Text.pieces_ne_nil '/' body)
  rw [fill, fill, pieces, cut]
  rfl

/-- The segments that the segments of a template become. -/
def filledRuns (values : String → String) (texts : List String) : List (List String) :=
  texts.map fun text => Text.segments (fillSegment values text)

theorem segments_fill (values : String → String) (text : String) :
    Text.segments (fill values text) = (filledRuns values (Text.segments text)).flatten := by
  rw [fill, Text.segments_join, Text.segments, filledRuns, ← List.flatMap_def, List.flatMap_map]
  induction Text.pieces '/' text with
  | nil => rfl
  | cons piece pieces ih =>
    by_cases empty : piece = ""
    · subst empty
      exact ih
    · simp [empty, ih]

end Filling

section Sharing

variable {options : PatternOptions} {elements : List PatternElement} {texts segments : List String}
  {runs : List (List String)}

theorem IsTemplate.starLengths_eq_nil (template : IsTemplate elements) :
    starLengths elements runs = [] := by
  rw [starLengths, List.filterMap_eq_nil_iff]
  rintro ⟨element, run⟩ member
  cases template element (List.of_mem_zip member).1 <;> rfl

theorem restValue_eq (run : List String) :
    restValue run = if run = [] then "" else "/" ++ Text.join "/" run := by
  induction run with
  | nil => rfl
  | cons first rest ih =>
    have split : restValue (first :: rest) = "/" ++ first ++ restValue rest := String.join_cons
    rw [split, ih]
    cases rest with
    | nil => simp [Text.join]
    | cons second rest => simp [Text.join, String.append_assoc]

theorem segments_restValue {run : List String} (proper : ∀ segment ∈ run, Text.IsSegment segment) :
    Text.segments (restValue run) = run := by
  rw [restValue_eq]
  split
  next empty => rw [empty]; rfl
  next => rw [Text.segments_slash, Text.segments_join_of_isSegment proper]

theorem Suits.tail {element : PatternElement} {values : String → List String}
    (suits : Suits (element :: elements) values) : Suits elements values where
  one name listed := suits.one name (List.mem_cons_of_mem element listed)
  rest name listed := suits.rest name (List.mem_cons_of_mem element listed)

theorem sharesOut_cons_of_spells {values : String → List String} {text : String}
    {element : PatternElement} (spells : Spells options text element)
    (proper : Text.IsSegment text) (templated : element.Templated)
    (last : ∀ name, element = .captureRest name → elements = [])
    (suits : Suits (element :: elements) values) (sharing : SharesOut options elements segments runs) :
    SharesOut options (element :: elements)
        (Text.segments (fillSegment (joined values) text) ++ segments)
        (Text.segments (fillSegment (joined values) text) :: runs) ∧
      element.binding? (Text.segments (fillSegment (joined values) text)) =
        element.assigned? values := by
  rw [fillSegment_of_spells spells]
  cases templated with
  | literal folded =>
    have taken : (PatternElement.literal folded).takesOne options text = true := by
      cases spells
      exact beq_self_eq_true _
    have run : Text.segments text = [text] := proper.segments_eq
    simp only [PatternElement.capturedName?, Option.map_none, Option.getD_none, run]
    exact ⟨.one taken sharing, rfl⟩
  | capture name =>
    obtain ⟨value, stands, fits⟩ := suits.one name List.mem_cons_self
    have run : Text.segments value = [value] := fits.segments_eq
    simp only [PatternElement.capturedName?, Option.map_some, Option.getD_some,
      PatternElement.assigned?, joined_of_eq_singleton stands, run]
    exact ⟨.one rfl sharing, rfl⟩
  | captureRest name =>
    obtain rfl := last name rfl
    cases sharing
    have run := Text.segments_join_of_isSegment (suits.rest name List.mem_cons_self)
    simp only [PatternElement.capturedName?, Option.map_some, Option.getD_some, joined, run,
      List.append_nil, PatternElement.binding?, PatternElement.assigned?, restValue_eq]
    exact ⟨.captureRest .done, trivial⟩

/-- Whatever is filled in is shared out among the elements as it was assigned. -/
theorem sharesOut_filledRuns {values : String → List String}
    (spelled : List.Forall₂ (Spells options) texts elements)
    (proper : ∀ text ∈ texts, Text.IsSegment text) (template : IsTemplate elements)
    (last : RestLast elements) (suits : Suits elements values) :
    SharesOut options elements (filledRuns (joined values) texts).flatten
        (filledRuns (joined values) texts) ∧
      boundValues elements (filledRuns (joined values) texts) =
        elements.filterMap (·.assigned? values) := by
  induction spelled with
  | nil => exact ⟨.done, rfl⟩
  | @cons text element texts elements spells spelled ih =>
    obtain ⟨first, later⟩ := List.forall_mem_cons.mp proper
    obtain ⟨templated, template⟩ := List.forall_mem_cons.mp template
    obtain ⟨final, last⟩ := restLast_cons.mp last
    obtain ⟨sharing, bound⟩ := ih later template last suits.tail
    obtain ⟨sharing, binds⟩ := sharesOut_cons_of_spells spells first templated final suits sharing
    refine ⟨sharing, ?_⟩
    rw [List.filterMap_cons, ← bound, ← binds]
    rfl

theorem mem_boundValues_cons {element : PatternElement} {run : List String} {pair : String × String} :
    pair ∈ boundValues (element :: elements) (run :: runs) ↔
      element.binding? run = some pair ∨ pair ∈ boundValues elements runs := by
  simp [boundValues]

theorem segments_fillSegment_of_takesOne {values : String → String} {text segment : String}
    {element : PatternElement} (cased : options.caseSensitive = true)
    (taken : element.takesOne options segment = true) (spells : Spells options text element)
    (templated : element.Templated) (proper : Text.IsSegment segment)
    (bound : ∀ pair, element.binding? [segment] = some pair → values pair.1 = pair.2) :
    Text.segments (fillSegment values text) = [segment] := by
  rw [fillSegment_of_spells spells, ← proper.segments_eq]
  refine congrArg Text.segments ?_
  cases templated with
  | literal folded =>
    cases spells
    have same : segment = text := by
      simpa [PatternElement.takesOne, PatternOptions.fold, cased] using taken
    exact same.symm
  | capture name => exact bound (name, segment) rfl
  | captureRest => cases taken

theorem filledRuns_eq_of_sharesOut {values : String → String} (cased : options.caseSensitive = true)
    (sharing : SharesOut options elements segments runs)
    (spelled : List.Forall₂ (Spells options) texts elements) (template : IsTemplate elements)
    (proper : ∀ segment ∈ segments, Text.IsSegment segment)
    (bound : ∀ pair ∈ boundValues elements runs, values pair.1 = pair.2) :
    filledRuns values texts = runs := by
  induction sharing generalizing texts with
  | done =>
    cases spelled
    rfl
  | one taken _ ih =>
    obtain ⟨text, texts, spells, later, rfl⟩ := List.forall₂_cons_right_iff.mp spelled
    obtain ⟨templated, template⟩ := List.forall_mem_cons.mp template
    obtain ⟨first, proper⟩ := List.forall_mem_cons.mp proper
    simp only [mem_boundValues_cons, or_imp, forall_and] at bound
    rw [filledRuns, List.map_cons,
      segments_fillSegment_of_takesOne cased taken spells templated first bound.1]
    exact congrArg _ (ih later template proper bound.2)
  | captureRest _ ih =>
    obtain ⟨text, texts, spells, later, rfl⟩ := List.forall₂_cons_right_iff.mp spelled
    obtain ⟨_, template⟩ := List.forall_mem_cons.mp template
    simp only [mem_boundValues_cons, or_imp, forall_and] at bound
    have filled : fillSegment values text = restValue _ :=
      (fillSegment_of_spells spells).trans (bound.1 _ rfl)
    rw [filledRuns, List.map_cons, filled, segments_restValue proper]
    exact congrArg _ (ih later template (List.forall_mem_nil _) bound.2)
  | multi => cases template .multi List.mem_cons_self

end Sharing

section Ends

variable {options : PatternOptions} {elements : List PatternElement} {element : PatternElement}
  {values : String → List String} {text body : String}

/-- What a segment becomes is one segment again unless it captures the rest. -/
theorem isSegment_fillSegment (spells : Spells options text element) (proper : Text.IsSegment text)
    (suits : Suits elements values) (listed : element ∈ elements)
    (single : ∀ name, element ≠ .captureRest name) :
    Text.IsSegment (fillSegment (joined values) text) := by
  rw [fillSegment_of_spells spells]
  cases element with
  | capture name =>
    obtain ⟨value, stands, segment⟩ := suits.one name listed
    change Text.IsSegment (joined values name)
    rwa [joined_of_eq_singleton stands]
  | captureRest name => exact absurd rfl (single name)
  | _ => exact proper

/-- The last piece of a template stays empty or filled unless it captures the rest. -/
theorem fillSegment_last {front : List String} {last : String}
    (spelled : List.Forall₂ (Spells options) (Text.segments body) elements)
    (suits : Suits elements values) (single : ∀ name, elements.getLast? ≠ some (.captureRest name))
    (pieces : Text.pieces '/' body = front ++ [last]) :
    '/' ∉ (fillSegment (joined values) last).toList ∧
      (fillSegment (joined values) last = "" ↔ last = "") := by
  by_cases empty : last = ""
  · subst empty
    exact ⟨List.not_mem_nil, iff_of_true rfl rfl⟩
  · have segments : Text.segments body = front.filter (· ≠ "") ++ [last] := by
      rw [Text.segments, pieces, List.filter_append]
      simp [empty]
    have proper : Text.IsSegment last :=
      Text.isSegment_of_mem_segments (segments ▸ List.mem_concat_self)
    rw [segments, ← List.forall₂_reverse_iff, List.reverse_concat] at spelled
    obtain ⟨element, later, spells, _, reversed⟩ := List.forall₂_cons_left_iff.mp spelled
    have final : elements.getLast? = some element := by
      rw [List.getLast?_eq_head?_reverse, reversed]
      rfl
    have filled := isSegment_fillSegment spells proper suits (List.mem_of_getLast? final)
      fun name same => single name (same ▸ final)
    exact ⟨filled.2, iff_of_false filled.1 empty⟩

/-- Unless it ends with a capture of the rest, a template that is filled in ends with a slash if it
did before. -/
theorem closesWith_fill (spelled : List.Forall₂ (Spells options) (Text.segments body) elements)
    (suits : Suits elements values) (single : ∀ name, elements.getLast? ≠ some (.captureRest name)) :
    Text.closesWith '/' (fill (joined values) body) = Text.closesWith '/' body := by
  obtain ⟨front, last, pieces⟩ :=
    (Text.pieces '/' body).eq_nil_or_concat'.resolve_left (Text.pieces_ne_nil '/' body)
  have member : last ∈ Text.pieces '/' body := by
    rw [pieces]
    exact List.mem_concat_self
  have free := Text.not_mem_of_mem_pieces member
  obtain ⟨filledFree, filledEmpty⟩ := fillSegment_last spelled suits single pieces
  have before : body = Text.join "/" (front ++ [last]) := by rw [← pieces, Text.join_pieces]
  have after : fill (joined values) body = Text.join "/" (front.map (fillSegment (joined values)) ++
      [fillSegment (joined values) last]) := by
    rw [fill, pieces, List.map_append, List.map_singleton]
  rw [Bool.eq_iff_iff, after, Text.closesWith_join_concat filledFree, filledEmpty]
  rw [before, Text.closesWith_join_concat free, ne_eq, List.map_eq_nil_iff]

end Ends

namespace PathPattern

variable {options : PatternOptions} {text path : String} {pattern : PathPattern}

theorem match?_of_sharesOut (template : IsTemplate pattern.elements) (last : RestLast pattern.elements)
    (fits : pattern.fitsEnds path = true) {runs : List (List String)}
    (sharing : SharesOut pattern.options pattern.elements (Text.segments path) runs) :
    pattern.match? path = some ⟨boundValues pattern.elements runs⟩ := by
  obtain ⟨first, found, least⟩ := sharing.exists_firstSharing? last
  rw [template.starLengths_eq_nil, template.starLengths_eq_nil] at least
  obtain rfl := least.resolve_right (List.lt_irrefl [])
  rw [match?_eq_firstSharing?, if_pos fits, found]
  rfl

/-- A template that is filled in binds what has been filled in, if it still has the same slashes. -/
theorem match?_fill {values : String → List String} (read : parse options text = .ok pattern)
    (template : IsTemplate pattern.elements) (suits : Suits pattern.elements values)
    (fits : pattern.fitsEnds (fill (joined values) text) = true) :
    pattern.match? (fill (joined values) text) =
      some ⟨pattern.elements.filterMap (·.assigned? values)⟩ := by
  obtain ⟨elements, conforms, rfl⟩ := parse_eq_ok_iff_conforms.mp read
  obtain ⟨sharing, bound⟩ := sharesOut_filledRuns conforms.spelled
    (fun _ => Text.isSegment_of_mem_segments) template conforms.restLast suits
  rw [← segments_fill] at sharing
  rw [match?_of_sharesOut template conforms.restLast fits sharing, bound]

theorem fitsEnds_fill {values : String → List String} (read : parse options text = .ok pattern)
    (opens : Text.opensWith '/' text = true) (suits : Suits pattern.elements values) :
    pattern.fitsEnds (fill (joined values) text) = true := by
  obtain ⟨body, rfl⟩ := Text.exists_slash opens
  rw [fitsEnds_iff read, fill_slash]
  refine ⟨by simp, .inr ?_⟩
  by_cases rest : ∃ name, pattern.elements.getLast? = some (.captureRest name)
  · exact .inl rest
  · obtain ⟨elements, conforms, rfl⟩ := parse_eq_ok_iff_conforms.mp read
    have spelled := conforms.spelled
    rw [Text.segments_slash] at spelled
    rw [Text.dropOpening_slash, Text.dropOpening_slash,
      closesWith_fill spelled suits (not_exists.mp rest)]
    exact .inr (.inl Iff.rfl)

theorem segments_fill_of_match? (read : parse options text = .ok pattern)
    (template : IsTemplate pattern.elements) (cased : options.caseSensitive = true)
    {bindings : Bindings} (matched : pattern.match? path = some bindings) :
    Text.segments (fill bindings.value text) = Text.segments path := by
  obtain ⟨elements, conforms, rfl⟩ := parse_eq_ok_iff_conforms.mp read
  rw [match?_eq_firstSharing?, Option.ite_none_right_eq_some] at matched
  obtain ⟨runs, found, rfl⟩ := Option.map_eq_some_iff.mp matched.2
  have sharing := sharesOut_of_firstSharing? conforms.restLast found
  have names : Bindings.names ⟨boundValues elements runs⟩ = elements.filterMap (·.capturedName?) :=
    sharing.boundValues_names
  have filled : filledRuns (Bindings.value ⟨boundValues elements runs⟩) (Text.segments text) = runs :=
    filledRuns_eq_of_sharesOut cased sharing conforms.spelled template
      (fun _ => Text.isSegment_of_mem_segments) fun _ =>
        Bindings.value_of_mem (names ▸ conforms.distinct)
  rw [segments_fill]
  exact (congrArg List.flatten filled).trans sharing.flatten_eq

theorem opensWith_of_match? (read : parse options text = .ok pattern) {bindings : Bindings}
    (matched : pattern.match? path = some bindings) :
    Text.opensWith '/' path = Text.opensWith '/' text := by
  rw [match?_eq_firstSharing?, Option.ite_none_right_eq_some, fitsEnds_iff read] at matched
  exact Bool.eq_iff_iff.mpr matched.1.opening

theorem fill_of_plain (values : String → String) (plain : IsPlain text) :
    fill values text = text := by
  have same : (Text.pieces '/' text).map (fillSegment values) = Text.pieces '/' text := by
    refine (List.map_congr_left fun piece member => ?_).trans (List.map_id _)
    refine fillSegment_outside fun opens => plain '{' (by decide) ?_
    exact Text.mem_of_mem_pieces member (List.mem_of_head? opens)
  rw [fill, same, Text.join_pieces]

/-- The elements that segments without braces and wildcards stand for. -/
def literals (options : PatternOptions) (segments : List String) : List PatternElement :=
  segments.map fun segment => .literal (options.fold segment)

theorem exists_literal_of_mem {segments : List String} {element : PatternElement}
    (member : element ∈ literals options segments) : ∃ folded, element = .literal folded := by
  obtain ⟨segment, _, rfl⟩ := List.mem_map.mp member
  exact ⟨_, rfl⟩

theorem conforms_of_plain (options : PatternOptions) (plain : IsPlain text) :
    Conforms options (Text.segments text) (literals options (Text.segments text)) where
  spelled := by
    rw [literals, List.forall₂_map_right_iff, List.forall₂_same]
    intro segment member
    have free : IsPlain segment := fun c special inside =>
      plain c special (Text.mem_of_mem_pieces (List.mem_filter.mp member).1 inside)
    exact .literal ⟨free '{' (by decide), free '}' (by decide)⟩ (free '*' (by decide))
      (free '?' (by decide))
  distinct := by simp [literals, List.filterMap_map, PatternElement.capturedName?]
  restLast := by
    intro before name after same
    obtain ⟨_, impossible⟩ := exists_literal_of_mem (same ▸ List.mem_append_cons_self)
    cases impossible

theorem match?_of_plain (options : PatternOptions) (plain : IsPlain text) :
    ∃ pattern, parse options text = .ok pattern ∧ pattern.match? text = some {} := by
  have read := parse_eq_ok_iff_conforms.mpr ⟨_, conforms_of_plain options plain, rfl⟩
  have template : IsTemplate (literals options (Text.segments text)) := by
    intro element member
    obtain ⟨folded, rfl⟩ := exists_literal_of_mem member
    exact .literal folded
  have suits : Suits (literals options (Text.segments text)) fun _ => [] := by
    refine ⟨fun name listed => ?_, fun name _ => List.forall_mem_nil _⟩
    obtain ⟨_, impossible⟩ := exists_literal_of_mem listed
    cases impossible
  have unchanged := fill_of_plain (joined fun _ => []) plain
  have fits := (fitsEnds_iff read text).mpr ⟨Iff.rfl, .inr (.inr (.inl Iff.rfl))⟩
  have matched := match?_fill read template suits (unchanged.symm ▸ fits)
  rw [unchanged] at matched
  refine ⟨_, read, matched.trans ?_⟩
  simp [literals, List.filterMap_map, PatternElement.assigned?]

/-- Filling in a template and matching it undo each other. Segments that are filled in for the
variables of a pattern of literals and captures that begins with a slash make a path that binds
exactly them, in the order of the pattern. Where case matters, what a path binds to such a pattern
makes, filled in, a path with the same slash in front and the same segments. And each text without
braces and wildcards is a pattern, and matches itself without binding anything. -/
theorem match?_fill_roundTrip (options : PatternOptions) (text : String) :
    (∀ pattern, parse options text = .ok pattern → Text.opensWith '/' text = true →
      IsTemplate pattern.elements →
      (∀ values, Suits pattern.elements values →
        pattern.match? (fill (joined values) text) =
          some ⟨pattern.elements.filterMap (·.assigned? values)⟩) ∧
      (options.caseSensitive = true → ∀ path bindings, pattern.match? path = some bindings →
        Text.opensWith '/' path = true ∧ Text.opensWith '/' (fill bindings.value text) = true ∧
          Text.segments (fill bindings.value text) = Text.segments path)) ∧
    (IsPlain text →
      ∃ pattern, parse options text = .ok pattern ∧ pattern.match? text = some {}) := by
  refine ⟨fun pattern read opens template => ⟨?_, ?_⟩, match?_of_plain options⟩
  · intro values suits
    exact match?_fill read template suits (fitsEnds_fill read opens suits)
  · intro cased path bindings matched
    refine ⟨(opensWith_of_match? read matched).trans opens, ?_,
      segments_fill_of_match? read template cased matched⟩
    obtain ⟨body, rfl⟩ := Text.exists_slash opens
    rw [fill_slash, Text.opensWith_slash]

section

private abbrev files : PathPattern :=
  ⟨"/users/{id}/{*path}", [.literal "users", .capture "id", .captureRest "path"], true, false, {}⟩

private abbrev photos (name : String) : List String :=
  if name = "id" then ["7"] else ["photos", "2024"]

/-- A capture of the rest binds a slash in front of each segment; filling that in doubles the slash
and gives the same segments. -/
theorem match?_fill_roundTrip_files :
    files.match? "/users/7/photos/2024" = some ⟨[("id", "7"), ("path", "/photos/2024")]⟩ ∧
      Text.opensWith '/' "//users/7//photos/2024/" = true ∧
      Text.segments (fill (Bindings.value ⟨[("id", "7"), ("path", "/photos/2024")]⟩) files.source) =
        Text.segments "//users/7//photos/2024/" ∧
      ∃ pattern, parse {} "users//all/" = .ok pattern ∧ pattern.match? "users//all/" = some {} := by
  have template : IsTemplate files.elements := by
    simp only [IsTemplate, List.forall_mem_cons]
    exact ⟨.literal _, .capture _, .captureRest _, List.forall_mem_nil _⟩
  have both := (match?_fill_roundTrip {} files.source).1 files rfl rfl template
  have suits : Suits files.elements photos := by
    constructor
    · intro name listed
      obtain rfl : name = "id" := by simpa using listed
      exact ⟨"7", rfl, by decide⟩
    · intro name listed
      obtain rfl : name = "path" := by simpa using listed
      decide
  have there := both.1 photos suits
  have back := both.2 rfl "//users/7//photos/2024/" _ (by rfl)
  exact ⟨there, back.1, back.2.2, (match?_fill_roundTrip {} "users//all/").2 (by simp [IsPlain])⟩

end

end PathPattern

end RouteProbe
