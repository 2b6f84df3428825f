import RouteProbe.Proofs.Pattern.GlobPositions
import RouteProbe.Proofs.Pattern.VisitedOnce

/-! # Matching by number

The matcher is handed what remains of the elements and of the segments, together with their numbers.
The numbers alone would do: a segment can be fetched by its number (`PatternElement.matchAt`), just
as the table is read and written by slots. With every such access checked, none is out of bounds: at
the end of the path no segment is fetched, and every question has its slot in the table, since none
is put about an element or a segment beyond the ends (`MatchState.InBounds`). What comes of matching
by number is what comes of matching what remains (`matchFrom_keepsBounds`). Main statement:
`PathPattern.match?_inBounds`.
-/

namespace RouteProbe

/-! ## The matcher -/

namespace MatchState

/-- Puts a question, with the accesses to the table checked. -/
def askAt (total element segment : Nat) (look : MatchState → Except Overrun (Bool × MatchState))
    (state : MatchState) : Except Overrun (Bool × MatchState) := do
  let slot := failureSlot total element segment
  let known ← within slot state.failed.size fun _ => state.failed[slot]
  let noted := state.noting ⟨element, segment, !known⟩
  if known then return (false, noted)
  let (yes, after) ← look noted
  if yes then return (true, after)
  let failed ← within slot after.failed.size fun _ => after.failed.set slot true
  return (false, { after with failed })

/-- Looks into the segment with a number. There is none at the end of the path, which is a no. -/
def lookAt (segments : List String) (segment : Nat)
    (look : String → Except Overrun (Bool × MatchState)) (state : MatchState) :
    Except Overrun (Bool × MatchState) :=
  if segment = segments.length then .ok (false, state) else itemAt segments segment >>= look

end MatchState

/-- Makes an attempt at one number after the other, going back to the bindings there were before
each. -/
def firstNumber (attempt : Nat → MatchState → Except Overrun (Bool × MatchState)) :
    List Nat → MatchState → Except Overrun (Bool × MatchState)
  | [], state => .ok (false, state)
  | number :: later, state => do
    let (yes, after) ← attempt number state
    if yes then return (true, after)
    firstNumber attempt later (after.rewind state.bindings.size)

namespace PatternElement

/-- Whether an element accepts a segment, a glob being compared by position. -/
def acceptsAt (options : PatternOptions) (segment : String) : PatternElement → Except Overrun Bool
  | glob text => Glob.compare text (options.fold segment)
  | element => .ok (element.accepts options segment)

/-- Matches the elements from a number on with the segments from a number on, knowing of both only
these numbers. -/
def matchAt (options : PatternOptions) (elements : List PatternElement) (segments : List String)
    (element segment : Nat) (state : MatchState) : Except Overrun (Bool × MatchState) :=
  state.askAt segments.length element segment fun state =>
    if _inside : element < elements.length then
      match elements[element] with
      -- these two do without a segment, so they come first: they may stand at the end of the path
      | multi =>
        firstNumber (fun next state => matchAt options elements segments (element + 1) next state)
          (List.range' segment (segments.length + 1 - segment)) state
      | captureRest name => do
        let rest ← itemsFrom segments segment
        return (true, state.capture name (restValue rest))
      | capture name =>
        state.lookAt segments segment fun taken => do
          let (yes, after) ←
            matchAt options elements segments (element + 1) (segment + 1) (state.capture name taken)
          if yes then return (true, after)
          return (false, after.rewind state.bindings.size)
      | single =>
        state.lookAt segments segment fun taken => do
          if ← single.acceptsAt options taken then
            matchAt options elements segments (element + 1) (segment + 1) state
          else return (false, state)
    else .ok (segment == segments.length, state)
termination_by elements.length - element

end PatternElement

namespace PathPattern

/-- Shares the segments of a path out among the elements, by number. -/
def runAt (pattern : PathPattern) (segments : List String) : Except Overrun (Bool × MatchState) :=
  PatternElement.matchAt pattern.options pattern.elements segments 0 0
    (.start pattern.elements.length segments.length)

/-- The bindings of a path that matches the pattern, found by number. -/
def matchAt? (pattern : PathPattern) (path : String) : Except Overrun (Option Bindings) :=
  if pattern.fitsEnds path then do
    let (yes, state) ← pattern.runAt (Text.segments (Text.dropOpening '/' path))
    return if yes then some state.bindings else none
  else .ok none

end PathPattern

/-! ## Bounds -/

/-- Whether a state has a slot for each question within bounds, and no other has been put. -/
structure MatchState.InBounds (limit total : Nat) (state : MatchState) : Prop where
  size_eq : state.failed.size = (limit + 1) * (total + 1)
  visits : ∀ visit ∈ state.visits, visit.element ≤ limit ∧ visit.segment ≤ total

/-- A checked attempt makes no access out of bounds, answers as one without checks does, and leaves
a state in bounds. -/
structure KeepsBounds (limit total : Nat) (checked : Except Overrun (Bool × MatchState))
    (answer : Bool × MatchState) : Prop where
  eq_ok : checked = .ok answer
  inBounds : answer.2.InBounds limit total

section Bounds

variable {limit total element segment : Nat} {state : MatchState}

namespace MatchState.InBounds

theorem start (limit total : Nat) : (MatchState.start limit total).InBounds limit total where
  size_eq := Array.size_replicate
  visits := fun _ member => absurd member List.not_mem_nil

theorem noting (bounds : state.InBounds limit total) (below : element ≤ limit)
    (inside : segment ≤ total) (fresh : Bool) :
    (state.noting ⟨element, segment, fresh⟩).InBounds limit total where
  size_eq := bounds.size_eq
  visits := List.forall_mem_cons.mpr ⟨⟨below, inside⟩, bounds.visits⟩

theorem remember (bounds : state.InBounds limit total) :
    (state.remember total element segment).InBounds limit total where
  size_eq := Array.size_setIfInBounds.trans bounds.size_eq
  visits := bounds.visits

theorem capture (bounds : state.InBounds limit total) (name value : String) :
    (state.capture name value).InBounds limit total := ⟨bounds.size_eq, bounds.visits⟩

theorem rewind (bounds : state.InBounds limit total) (mark : Nat) :
    (state.rewind mark).InBounds limit total := ⟨bounds.size_eq, bounds.visits⟩

theorem slot_lt (bounds : state.InBounds limit total) (below : element ≤ limit)
    (inside : segment ≤ total) : failureSlot total element segment < state.failed.size := by
  rw [bounds.size_eq]
  exact failureSlot_lt below inside

end MatchState.InBounds

theorem MatchState.getElem_failed (slot : failureSlot total element segment < state.failed.size) :
    state.failed[failureSlot total element segment] = state.marks total element segment := by
  rw [marks, Array.getD_eq_getD_getElem?, Array.getElem?_eq_getElem slot, Option.getD_some]

section Questions

variable {checked : MatchState → Except Overrun (Bool × MatchState)}

theorem MatchState.askAt_of_marks (slot : failureSlot total element segment < state.failed.size)
    (known : state.marks total element segment = true) :
    state.askAt total element segment checked =
      .ok (false, state.noting ⟨element, segment, false⟩) := by
  rw [askAt, within_of_lt slot, ok_bind, getElem_failed slot, known]
  rfl

theorem MatchState.askAt_of_looked {after : MatchState} {yes : Bool}
    (slot : failureSlot total element segment < state.failed.size)
    (room : failureSlot total element segment < after.failed.size)
    (unknown : state.marks total element segment = false)
    (looked : checked (state.noting ⟨element, segment, true⟩) = .ok (yes, after)) :
    state.askAt total element segment checked =
      .ok (yes, if yes then after else after.remember total element segment) := by
  rw [askAt, within_of_lt slot, ok_bind, getElem_failed slot, unknown]
  change (checked (state.noting ⟨element, segment, true⟩) >>= _) = _
  rw [looked, ok_bind]
  cases yes with
  | true => rfl
  | false =>
    change (within _ _ _ >>= _) = _
    rw [within_of_lt room, ok_bind, if_neg Bool.false_ne_true, remember, Array.setIfInBounds,
      dif_pos room]
    rfl

/-- A question within bounds has its slot in the table before it is looked into and after. -/
theorem ask_keepsBounds {look : MatchState → Bool × MatchState} (bounds : state.InBounds limit total)
    (below : element ≤ limit) (inside : segment ≤ total)
    (looks : ∀ noted : MatchState, noted.InBounds limit total →
      KeepsBounds limit total (checked noted) (look noted)) :
    KeepsBounds limit total (state.askAt total element segment checked)
      (state.ask total element segment look) := by
  have slot := bounds.slot_lt below inside
  cases known : state.marks total element segment with
  | true =>
    rw [MatchState.ask_of_marks known]
    exact ⟨MatchState.askAt_of_marks slot known, bounds.noting below inside false⟩
  | false =>
    have answered := looks _ (bounds.noting below inside true)
    rcases looked : look (state.noting ⟨element, segment, true⟩) with ⟨yes, after⟩
    rw [looked] at answered
    have room := answered.inBounds.slot_lt below inside
    rw [MatchState.ask_of_looked known looked]
    refine ⟨MatchState.askAt_of_looked slot room known answered.eq_ok, ?_⟩
    cases yes with
    | true => exact answered.inBounds
    | false => exact answered.inBounds.remember

end Questions

/-! ## Runs -/

section Runs

variable {options : PatternOptions} {elements : List PatternElement} {segments : List String}

theorem firstNumber_cons {attempt : Nat → MatchState → Except Overrun (Bool × MatchState)}
    {number : Nat} {yes : Bool} {after : MatchState}
    (attempted : attempt number state = .ok (yes, after)) (later : List Nat) :
    firstNumber attempt (number :: later) state =
      if yes then .ok (true, after)
      else firstNumber attempt later (after.rewind state.bindings.size) := by
  rw [firstNumber, attempted, ok_bind]
  rfl

/-- Attempts at one number after the other are attempts at one tail after the other. -/
theorem firstTail_keepsBounds {attemptAt : Nat → MatchState → Except Overrun (Bool × MatchState)}
    {attempt : List String → Nat → MatchState → Bool × MatchState}
    (attempts : ∀ number ≤ segments.length, ∀ state : MatchState, state.InBounds limit segments.length →
      KeepsBounds limit segments.length (attemptAt number state)
        (attempt (segments.drop number) number state))
    (inside : segment ≤ segments.length) (bounds : state.InBounds limit segments.length) :
    KeepsBounds limit segments.length
      (firstNumber attemptAt (List.range' segment (segments.length + 1 - segment)) state)
      (firstTail attempt (segments.drop segment) segment state) := by
  generalize behind : segments.drop segment = tail
  induction tail generalizing segment state with
  | nil =>
    have attempted := attempts segment inside state bounds
    rw [behind] at attempted
    rcases answered : attempt [] segment state with ⟨yes, after⟩
    rw [answered] at attempted
    obtain rfl : segment = segments.length := Nat.le_antisymm inside (List.drop_eq_nil_iff.mp behind)
    rw [Nat.add_sub_cancel_left, List.range'_one, firstNumber_cons attempted.eq_ok, firstTail, answered]
    cases yes with
    | true => exact ⟨rfl, attempted.inBounds⟩
    | false => exact ⟨rfl, attempted.inBounds.rewind _⟩
  | cons taken tail ih =>
    have attempted := attempts segment inside state bounds
    rw [behind] at attempted
    rcases answered : attempt (taken :: tail) segment state with ⟨yes, after⟩
    rw [answered] at attempted
    obtain ⟨further, tailBehind⟩ := next_item behind
    have count : segments.length + 1 - segment = segments.length + 1 - (segment + 1) + 1 := by omega
    rw [count, List.range'_succ, firstNumber_cons attempted.eq_ok, firstTail, answered]
    cases yes with
    | true => exact ⟨rfl, attempted.inBounds⟩
    | false => exact ih further (attempted.inBounds.rewind _) tailBehind

/-- A segment is fetched where one remains, and at the end of the path none is. -/
theorem lookAt_keepsBounds {look : String → Except Overrun (Bool × MatchState)}
    {looked : String → List String → Bool × MatchState} (inside : segment ≤ segments.length)
    (bounds : state.InBounds limit total)
    (looks : ∀ taken tail, segments.drop segment = taken :: tail →
      KeepsBounds limit total (look taken) (looked taken tail)) :
    KeepsBounds limit total (state.lookAt segments segment look)
      (match segments.drop segment with
        | [] => (false, state)
        | taken :: tail => looked taken tail) := by
  rw [MatchState.lookAt]
  cases remaining : segments.drop segment with
  | nil =>
    rw [if_pos (Nat.le_antisymm inside (List.drop_eq_nil_iff.mp remaining))]
    exact ⟨rfl, bounds⟩
  | cons taken tail =>
    have before : segment < segments.length := (next_item remaining).1
    rw [if_neg (Nat.ne_of_lt before), itemAt_of_drop remaining]
    exact looks taken tail remaining

theorem acceptsAt_eq (options : PatternOptions) (segment : String) (element : PatternElement) :
    element.acceptsAt options segment = .ok (element.accepts options segment) := by
  cases element with
  | glob text => exact Glob.compare_eq text (options.fold segment)
  | _ => rfl

section Behind

variable {behind : Except Overrun (Bool × MatchState)} {answer : Bool × MatchState}

/-- Only an element that accepts the segment has the question behind both put. -/
theorem KeepsBounds.accepting (keeps : KeepsBounds limit total behind answer)
    (bounds : state.InBounds limit total) (first : PatternElement) (taken : String) :
    KeepsBounds limit total
      (first.acceptsAt options taken >>= fun accepted =>
        if accepted then behind else .ok (false, state))
      (if first.accepts options taken then answer else (false, state)) := by
  rw [acceptsAt_eq, ok_bind]
  cases first.accepts options taken with
  | true => exact keeps
  | false => exact ⟨rfl, bounds⟩

/-- A no takes the bindings back to what they were. -/
theorem KeepsBounds.rewinding (mark : Nat) :
    KeepsBounds limit total behind answer → KeepsBounds limit total
      (behind >>= fun (yes, after) =>
        if yes then .ok (true, after) else .ok (false, after.rewind mark))
      (match answer with
        | (true, after) => (true, after)
        | (false, after) => (false, after.rewind mark)) := by
  intro keeps
  obtain ⟨yes, after⟩ := answer
  rw [keeps.eq_ok, ok_bind]
  cases yes with
  | true => exact ⟨rfl, keeps.inBounds⟩
  | false => exact ⟨rfl, keeps.inBounds.rewind mark⟩

end Behind

/-- The matcher that knows only numbers makes no access out of bounds, and answers as the one that
is given what remains. -/
theorem matchFrom_keepsBounds (below : element ≤ elements.length) (inside : segment ≤ segments.length)
    (bounds : state.InBounds elements.length segments.length) :
    KeepsBounds elements.length segments.length
      (PatternElement.matchAt options elements segments element segment state)
      (PatternElement.matchFrom options segments.length (elements.drop element) element
        (segments.drop segment) segment state) := by
  generalize behind : elements.drop element = rest
  induction rest generalizing element segment state with
  | nil =>
    rw [PatternElement.matchAt, PatternElement.matchFrom]
    refine ask_keepsBounds bounds below inside fun noted notedBounds => ?_
    rw [dif_neg (Nat.not_lt.mpr (List.drop_eq_nil_iff.mp behind))]
    refine ⟨?_, notedBounds⟩
    have atEnd : (segment == segments.length) = (segments.drop segment).isEmpty := by
      rw [Bool.eq_iff_iff, beq_iff_eq, List.isEmpty_iff, List.drop_eq_nil_iff]
      exact ⟨fun same => Nat.le_of_eq same.symm, Nat.le_antisymm inside⟩
    rw [atEnd]
  | cons first rest ih =>
    obtain ⟨next, later⟩ := next_item behind
    have room : element < elements.length := next
    have head := getElem_of_drop room behind
    cases first with
    | multi =>
      rw [PatternElement.matchAt, PatternElement.matchFrom]
      refine ask_keepsBounds bounds below inside fun noted notedBounds => ?_
      rw [dif_pos room, head]
      refine firstTail_keepsBounds (fun number numberInside state stateBounds => ?_) inside notedBounds
      exact ih next numberInside stateBounds later
    | captureRest name =>
      rw [PatternElement.matchAt, PatternElement.matchFrom]
      refine ask_keepsBounds bounds below inside fun noted notedBounds => ?_
      rw [dif_pos room, head]
      dsimp only
      rw [itemsFrom_of_le inside]
      exact ⟨rfl, notedBounds.capture name _⟩
    | capture name =>
      rw [PatternElement.matchAt, PatternElement.matchFrom]
      refine ask_keepsBounds bounds below inside fun noted notedBounds => ?_
      rw [dif_pos room, head]
      refine lookAt_keepsBounds inside notedBounds fun taken tail remaining => ?_
      obtain ⟨further, tailRemaining⟩ := next_item remaining
      have answered := ih next further (notedBounds.capture name taken) later
      rw [tailRemaining] at answered
      exact answered.rewinding noted.bindings.size
    | literal text | glob text =>
      rw [PatternElement.matchAt, PatternElement.matchFrom]
      refine ask_keepsBounds bounds below inside fun noted notedBounds => ?_
      rw [dif_pos room, head]
      refine lookAt_keepsBounds inside notedBounds fun taken tail remaining => ?_
      obtain ⟨further, tailRemaining⟩ := next_item remaining
      have answered := ih next further notedBounds later
      rw [tailRemaining] at answered
      exact answered.accepting notedBounds _ taken

end Runs

end Bounds

namespace PathPattern

theorem run_keepsBounds (pattern : PathPattern) (segments : List String) :
    KeepsBounds pattern.elements.length segments.length (pattern.runAt segments)
      (pattern.run segments) := by
  have keeps : KeepsBounds pattern.elements.length segments.length (pattern.runAt segments) _ :=
    matchFrom_keepsBounds (Nat.zero_le _) (Nat.zero_le _) (.start ..)
  rwa [List.drop_zero, List.drop_zero] at keeps

theorem matchAt?_eq (pattern : PathPattern) (path : String) :
    pattern.matchAt? path = .ok (pattern.match? path) := by
  rw [matchAt?, match?]
  split
  next =>
    rw [(run_keepsBounds pattern _).eq_ok, ok_bind]
    rcases pattern.run (Text.segments (Text.dropOpening '/' path)) with ⟨yes, state⟩
    cases yes <;> rfl
  next => rfl

/-- No question is about anything beyond the end of the pattern or the end of the path. -/
theorem visitsOf_bounded (pattern : PathPattern) (path : String) :
    ∀ visit ∈ pattern.visitsOf path,
      visit.element ≤ pattern.elements.length ∧ visit.segment ≤ (Text.segments path).length := by
  rw [visitsOf, segments_dropOpening]
  split
  next => exact (run_keepsBounds pattern _).inBounds.visits
  next => exact fun visit member => absurd member List.not_mem_nil

/-- Every question put to match a path is about an element of the pattern or its end and a segment
of the path or its end, so its slot is one of the table, and no other such question has the same.
With all accesses checked, to the table, to a segment, to the segments from one on and to the
characters of globs and segments, matching puts the same questions, comes to the same bindings and
never reaches past an end; nor does the comparison of any glob with any text. -/
theorem match?_inBounds (pattern : PathPattern) (path : String) :
    let segments := Text.segments path
    (∀ visit ∈ pattern.visitsOf path,
      visit.element ≤ pattern.elements.length ∧ visit.segment ≤ segments.length ∧
        failureSlot segments.length visit.element visit.segment <
          (pattern.elements.length + 1) * (segments.length + 1)) ∧
    (∀ element element' segment segment', segment ≤ segments.length → segment' ≤ segments.length →
      failureSlot segments.length element segment = failureSlot segments.length element' segment' →
        element = element' ∧ segment = segment') ∧
    pattern.runAt segments = .ok (pattern.run segments) ∧
    pattern.matchAt? path = .ok (pattern.match? path) ∧
    ∀ glob text : String, Glob.compare glob text = .ok (Glob.isMatch glob text) := by
  refine ⟨fun visit member => ?_, fun _ _ _ _ => failureSlot_inj, (run_keepsBounds pattern _).eq_ok,
    matchAt?_eq pattern path, Glob.compare_eq⟩
  obtain ⟨below, inside⟩ := visitsOf_bounded pattern path visit member
  exact ⟨below, inside, failureSlot_lt below inside⟩

/-- The bounds are reached: the last question here is about the end of the pattern and the end of
the path, and has the last slot of the table. -/
theorem match?_inBounds_lastSlot :
    let pattern : PathPattern := ⟨"/**/{id}", [.multi, .capture "id"], true, false, {}⟩
    parse {} "/**/{id}" = .ok pattern ∧ ⟨2, 2, true⟩ ∈ pattern.visitsOf "/a/b" ∧
      failureSlot 2 2 2 + 1 = (2 + 1) * (2 + 1) ∧
      pattern.matchAt? "/a/b" = .ok (some ⟨[("id", "b")]⟩) := by
  intro pattern
  obtain ⟨_, _, _, same, _⟩ := match?_inBounds pattern "/a/b"
  have bindings : pattern.match? "/a/b" = some ⟨[("id", "b")]⟩ := by rfl
  rw [bindings] at same
  exact ⟨by rfl, by decide +kernel, by decide, same⟩

end PathPattern

end RouteProbe
