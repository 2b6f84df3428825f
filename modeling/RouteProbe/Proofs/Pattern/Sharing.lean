import RouteProbe.Pattern.Match

/-! # Sharing segments out among elements

What it means for a path to match is said here without a matcher: its segments are cut into
consecutive runs, one for each element of the pattern. Of several ways to do so the first one
counts, in which the leftmost double star takes as little as it can, then the next one, and so on.

`firstSharing?` looks for that way without remembering anything. It finds a sharing exactly if there
is one (`SharesOut.exists_firstSharing?`), and the one it finds is least in the lexicographic order
of the lengths of what the double stars take.
-/

namespace RouteProbe

/-- Whether an element stands for exactly one segment, and for this one. -/
def PatternElement.takesOne (options : PatternOptions) (segment : String) : PatternElement → Bool
  | literal text => options.fold segment == text
  | glob text => Glob.isMatch text (options.fold segment)
  | capture _ => true
  | captureRest _ | multi => false

/-- The segments, cut into consecutive runs, one for each element. -/
inductive SharesOut (options : PatternOptions) :
    List PatternElement → List String → List (List String) → Prop
  | done : SharesOut options [] [] []
  | one {element : PatternElement} {segment : String} {elements : List PatternElement}
      {segments : List String} {runs : List (List String)}
      (taken : element.takesOne options segment = true)
      (later : SharesOut options elements segments runs) :
      SharesOut options (element :: elements) (segment :: segments) ([segment] :: runs)
  /-- A capture of the rest leaves nothing for later elements. -/
  | captureRest {name : String} {elements : List PatternElement} {segments : List String}
      {runs : List (List String)} (later : SharesOut options elements [] runs) :
      SharesOut options (.captureRest name :: elements) segments (segments :: runs)
  | multi {elements : List PatternElement} {segments : List String} {runs : List (List String)}
      (run : List String) (later : SharesOut options elements segments runs) :
      SharesOut options (.multi :: elements) (run ++ segments) (run :: runs)

/-- How many segments each double star takes, from the left. -/
def starLengths (elements : List PatternElement) (runs : List (List String)) : List Nat :=
  (elements.zip runs).filterMap fun
    | (.multi, run) => some run.length
    | _ => none

/-- The value that an element binds to its name, given the run it takes. -/
def PatternElement.binding? : PatternElement → List String → Option (String × String)
  | capture name, [segment] => some (name, segment)
  | captureRest name, run => some (name, restValue run)
  | _, _ => none

/-- The values bound by all elements, in their order. -/
def boundValues (elements : List PatternElement) (runs : List (List String)) :
    List (String × String) :=
  (elements.zip runs).filterMap fun pair => pair.1.binding? pair.2

/-- A sharing before every other one in the order of what the double stars take. -/
def IsFirstSharing (options : PatternOptions) (elements : List PatternElement)
    (segments : List String) (runs : List (List String)) : Prop :=
  SharesOut options elements segments runs ∧
    ∀ other, SharesOut options elements segments other →
      other = runs ∨ starLengths elements runs < starLengths elements other

/-- Whether captures of the rest only stand last. -/
def RestLast (elements : List PatternElement) : Prop :=
  ∀ before name after, elements = before ++ .captureRest name :: after → after = []

namespace SharesOut

variable {options : PatternOptions} {elements : List PatternElement} {segments : List String}
  {runs : List (List String)}

theorem flatten_eq (sharing : SharesOut options elements segments runs) :
    runs.flatten = segments := by
  induction sharing with
  | done => rfl
  | one _ _ ih => simp [ih]
  | captureRest _ ih => simp [ih]
  | multi run _ ih => simp [ih]

/-- Each variable of the elements is bound once, in their order. -/
theorem boundValues_names (sharing : SharesOut options elements segments runs) :
    (boundValues elements runs).map (·.1) = elements.filterMap (·.capturedName?) := by
  induction sharing with
  | done => rfl
  | @one element segment _ _ _ _ _ ih =>
    cases element <;>
      simpa [boundValues, PatternElement.binding?, PatternElement.capturedName?] using ih
  | captureRest _ ih =>
    simpa [boundValues, PatternElement.binding?, PatternElement.capturedName?] using ih
  | multi run _ ih =>
    simpa [boundValues, PatternElement.binding?, PatternElement.capturedName?] using ih

end SharesOut

/-- The shortest run in front of a tail that the attempt accepts, with what the attempt makes of
that tail. -/
def firstSplit? {α : Type} (attempt : List String → Option α) :
    List String → Option (List String × α)
  | [] => (attempt []).map ([], ·)
  | segment :: segments =>
    match attempt (segment :: segments) with
    | some found => some ([], found)
    | none => (firstSplit? attempt segments).map fun split => (segment :: split.1, split.2)

/-- The first way to share the segments out, if there is one. -/
def firstSharing? (options : PatternOptions) :
    List PatternElement → List String → Option (List (List String))
  | [], segments => if segments = [] then some [] else none
  | .multi :: elements, segments =>
    (firstSplit? (fun tail => firstSharing? options elements tail) segments).map fun split =>
      split.1 :: split.2
  | .captureRest _ :: _, segments => some [segments]
  | _ :: _, [] => none
  | element :: elements, segment :: segments =>
    if element.takesOne options segment then
      (firstSharing? options elements segments).map ([segment] :: ·)
    else none

section Split

variable {α : Type} {attempt : List String → Option α}

theorem append_of_firstSplit? {segments run : List String} {found : α}
    (split : firstSplit? attempt segments = some (run, found)) :
    ∃ tail, segments = run ++ tail ∧ attempt tail = some found := by
  induction segments generalizing run with
  | nil =>
    obtain ⟨value, accepted, same⟩ := Option.map_eq_some_iff.mp split
    cases same
    exact ⟨[], rfl, accepted⟩
  | cons segment segments ih =>
    simp only [firstSplit?] at split
    split at split
    next value accepted =>
      cases split
      exact ⟨segment :: segments, rfl, accepted⟩
    next refused =>
      obtain ⟨⟨run', value⟩, later, same⟩ := Option.map_eq_some_iff.mp split
      cases same
      obtain ⟨tail, whole, accepted⟩ := ih later
      exact ⟨tail, by rw [whole, List.cons_append], accepted⟩

/-- An accepted tail bounds the run that is found: it is shorter, or it is all in front of that
tail. -/
theorem firstSplit?_append (run : List String) {tail : List String} {found : α}
    (accepted : attempt tail = some found) :
    ∃ split, firstSplit? attempt (run ++ tail) = some split ∧
      (split.1.length < run.length ∨ split = (run, found)) := by
  induction run with
  | nil => cases tail <;> exact ⟨([], found), by simp [firstSplit?, accepted], .inr rfl⟩
  | cons segment run ih =>
    simp only [List.cons_append, firstSplit?]
    cases earlier : attempt (segment :: (run ++ tail)) with
    | some value => exact ⟨([], value), rfl, .inl (Nat.succ_pos _)⟩
    | none =>
      obtain ⟨split, later, bound⟩ := ih
      refine ⟨(segment :: split.1, split.2), by rw [later]; rfl, ?_⟩
      rcases bound with shorter | same
      · exact .inl (Nat.succ_lt_succ shorter)
      · exact .inr (by rw [same])

end Split

theorem restLast_cons {element : PatternElement} {elements : List PatternElement} :
    RestLast (element :: elements) ↔
      (∀ name, element = .captureRest name → elements = []) ∧ RestLast elements := by
  constructor
  · intro last
    refine ⟨fun name same => last [] name elements (by rw [same]; rfl), ?_⟩
    intro before name after same
    exact last (element :: before) name after (by rw [same]; rfl)
  · rintro ⟨head, tail⟩ before name after same
    cases before with
    | nil =>
      obtain ⟨first, rest⟩ := List.cons.inj same
      exact rest ▸ head name first
    | cons first before => exact tail before name after (List.cons.inj same).2

theorem restLast_drop {elements : List PatternElement} (last : RestLast elements) (count : Nat) :
    RestLast (elements.drop count) := by
  intro before name after same
  apply last (elements.take count ++ before) name after
  rw [List.append_assoc, ← same, List.take_append_drop]

@[simp] theorem starLengths_multi (elements : List PatternElement) (run : List String)
    (runs : List (List String)) :
    starLengths (.multi :: elements) (run :: runs) = run.length :: starLengths elements runs := rfl

theorem starLengths_of_takesOne {options : PatternOptions} {element : PatternElement}
    {segment : String} (taken : element.takesOne options segment = true)
    (elements : List PatternElement) (run : List String) (runs : List (List String)) :
    starLengths (element :: elements) (run :: runs) = starLengths elements runs := by
  cases element with
  | multi => exact absurd taken Bool.false_ne_true
  | _ => rfl

section Search

variable {options : PatternOptions} {elements : List PatternElement} {segments : List String}

theorem firstSharing?_of_takesOne {element : PatternElement} {segment : String}
    (taken : element.takesOne options segment = true) :
    firstSharing? options (element :: elements) (segment :: segments) =
      (firstSharing? options elements segments).map ([segment] :: ·) := by
  cases element with
  | captureRest name => exact absurd taken Bool.false_ne_true
  | multi => exact absurd taken Bool.false_ne_true
  | _ => exact if_pos taken

theorem sharesOut_of_firstSharing? (last : RestLast elements) {runs : List (List String)}
    (found : firstSharing? options elements segments = some runs) :
    SharesOut options elements segments runs := by
  fun_induction firstSharing? options elements segments generalizing runs with
  | case1 => cases found; exact .done
  | case2 => contradiction
  | case3 elements segments ih =>
    obtain ⟨⟨run, later⟩, split, rfl⟩ := Option.map_eq_some_iff.mp found
    obtain ⟨tail, rfl, accepted⟩ := append_of_firstSplit? split
    exact .multi run (ih tail (restLast_cons.mp last).2 accepted)
  | case4 name elements segments =>
    obtain rfl := (restLast_cons.mp last).1 name rfl
    cases found
    exact .captureRest .done
  | case5 => contradiction
  | case6 element elements segment segments _ _ taken ih =>
    obtain ⟨later, accepted, rfl⟩ := Option.map_eq_some_iff.mp found
    exact .one taken (ih (restLast_cons.mp last).2 accepted)
  | case7 => contradiction

/-- If there is a sharing, the search finds one, and that one comes first. -/
theorem SharesOut.exists_firstSharing? {other : List (List String)}
    (sharing : SharesOut options elements segments other) (last : RestLast elements) :
    ∃ runs, firstSharing? options elements segments = some runs ∧
      (other = runs ∨ starLengths elements runs < starLengths elements other) := by
  induction sharing with
  | done => exact ⟨[], rfl, .inl rfl⟩
  | @one element segment elements segments _ taken _ ih =>
    obtain ⟨runs, found, least⟩ := ih (restLast_cons.mp last).2
    refine ⟨[segment] :: runs, by rw [firstSharing?_of_takesOne taken, found]; rfl, ?_⟩
    rw [starLengths_of_takesOne taken, starLengths_of_takesOne taken]
    exact least.imp (congrArg _) id
  | @captureRest name elements segments runs later _ =>
    obtain rfl := (restLast_cons.mp last).1 name rfl
    cases later
    exact ⟨[segments], rfl, .inl rfl⟩
  | multi run _ ih =>
    obtain ⟨runs, found, least⟩ := ih (restLast_cons.mp last).2
    obtain ⟨split, first, bound⟩ := firstSplit?_append run found
    refine ⟨split.1 :: split.2, by simp only [firstSharing?, first, Option.map_some], ?_⟩
    simp only [starLengths_multi, List.cons_lt_cons_iff]
    rcases bound with shorter | rfl
    · exact .inr (.inl shorter)
    · exact least.imp (congrArg _) fun less => .inr ⟨rfl, less⟩

theorem firstSharing?_eq_some_iff (last : RestLast elements) {runs : List (List String)} :
    firstSharing? options elements segments = some runs ↔
      IsFirstSharing options elements segments runs := by
  constructor
  · intro found
    refine ⟨sharesOut_of_firstSharing? last found, fun other sharing => ?_⟩
    obtain ⟨runs', found', least⟩ := sharing.exists_firstSharing? last
    cases found.symm.trans found'
    exact least
  · rintro ⟨sharing, first⟩
    obtain ⟨runs', found, least⟩ := sharing.exists_firstSharing? last
    rcases least with rfl | less
    · exact found
    · rcases first runs' (sharesOut_of_firstSharing? last found) with rfl | greater
      · exact found
      · exact absurd less (List.lt_asymm greater)

end Search

end RouteProbe
