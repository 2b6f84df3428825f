import RouteProbe.Proofs.Pattern.Sharing
import RouteProbe.Proofs.Positions

/-! # The table of failures

The matcher remembers which elements have failed on which remaining segments, and shares that table
and the bindings between all its attempts. Both stay in order: a no in the table is always right
(`MatchState.IsSound`), and an attempt that fails leaves the bindings as they were. So the matcher
answers as the search without a table does (`matchFrom_answered`).
-/

namespace RouteProbe

theorem failureSlot_div {total segment : Nat} (element : Nat) (inside : segment ≤ total) :
    failureSlot total element segment / (total + 1) = element := by
  rw [failureSlot, Nat.add_comm, Nat.add_mul_div_right _ _ (Nat.succ_pos total),
    Nat.div_eq_of_lt (Nat.lt_succ_of_le inside), Nat.zero_add]

/-- Different questions have different slots. -/
theorem failureSlot_inj {total element element' segment segment' : Nat} (inside : segment ≤ total)
    (inside' : segment' ≤ total)
    (same : failureSlot total element segment = failureSlot total element' segment') :
    element = element' ∧ segment = segment' := by
  have elements : element = element' := by
    rw [← failureSlot_div element inside, same, failureSlot_div element' inside']
  subst elements
  exact ⟨rfl, Nat.add_left_cancel same⟩

/-- What the elements from a number on bind in the segments from a number on, if they can share
those out. -/
def valuesFrom? (options : PatternOptions) (elements : List PatternElement)
    (segments : List String) (element segment : Nat) : Option (List (String × String)) :=
  (firstSharing? options (elements.drop element) (segments.drop segment)).map
    (boundValues (elements.drop element))

/-- Every no in the table of failures is right. -/
def MatchState.IsSound (options : PatternOptions) (elements : List PatternElement)
    (segments : List String) (state : MatchState) : Prop :=
  ∀ element segment, segment ≤ segments.length →
    state.failed.getD (failureSlot segments.length element segment) false = true →
      valuesFrom? options elements segments element segment = none

/-- An attempt answers rightly: the table stays right, and exactly the values found are bound on top
of those bound before. -/
structure Answered (options : PatternOptions) (elements : List PatternElement)
    (segments : List String) (found? : Option (List (String × String))) (before : MatchState)
    (answer : Bool × MatchState) : Prop where
  sound : answer.2.IsSound options elements segments
  isSome : answer.1 = found?.isSome
  entries : answer.2.bindings.entries = before.bindings.entries ++ found?.getD []

section Table

variable {options : PatternOptions} {elements : List PatternElement} {segments : List String}
  {found? : Option (List (String × String))} {state : MatchState}

theorem isSound_start (options : PatternOptions) (elements : List PatternElement)
    (segments : List String) :
    (MatchState.start elements.length segments.length).IsSound options elements segments := by
  intro element segment _ known
  rw [MatchState.start, Array.getD_eq_getD_getElem?, Array.getElem?_replicate] at known
  split at known <;> contradiction

/-- Looking a question up and remembering a no spoils nothing. -/
theorem ask_answered {element segment : Nat} {answer : MatchState → Bool × MatchState}
    (inside : segment ≤ segments.length) (sound : state.IsSound options elements segments)
    (answers : ∀ next : MatchState, next.IsSound options elements segments →
      Answered options elements segments (valuesFrom? options elements segments element segment)
        next (answer next)) :
    Answered options elements segments (valuesFrom? options elements segments element segment)
      state (state.ask segments.length element segment answer) := by
  unfold MatchState.ask
  dsimp only
  split
  next known =>
    have refused := sound element segment inside known
    exact ⟨sound, by rw [refused]; rfl, by rw [refused]; exact (List.append_nil _).symm⟩
  next unknown =>
    have result := answers { state with
      visits := ⟨element, segment, !state.failed.getD (failureSlot segments.length element segment)
        false⟩ :: state.visits } sound
    split
    next after equation =>
      rw [equation] at result
      exact ⟨result.sound, result.isSome, result.entries⟩
    next after equation =>
      rw [equation] at result
      have refused : valuesFrom? options elements segments element segment = none :=
        Option.isSome_eq_false_iff.mp result.isSome.symm |> Option.isNone_iff_eq_none.mp
      refine ⟨?_, result.isSome, result.entries⟩
      intro element' segment' inside' known
      rw [Array.getD_eq_getD_getElem?, Array.getElem?_setIfInBounds] at known
      split at known
      next same =>
        obtain ⟨rfl, rfl⟩ := failureSlot_inj inside inside' same
        exact refused
      next =>
        rw [← Array.getD_eq_getD_getElem?] at known
        exact result.sound element' segment' inside' known

/-- A no is an answer to a question that has none. -/
theorem Answered.eq_none {after : MatchState}
    (failed : Answered options elements segments found? state (false, after)) : found? = none :=
  Option.not_isSome_iff_eq_none.mp (Bool.eq_false_iff.mp failed.isSome.symm)

/-- What counts of the state before an attempt are the bindings. -/
theorem Answered.of_bindings {before : MatchState} {answer : Bool × MatchState}
    (result : Answered options elements segments found? before answer)
    (same : before.bindings = state.bindings) :
    Answered options elements segments found? state answer :=
  ⟨result.sound, result.isSome, same ▸ result.entries⟩

/-- Going back after a failed attempt restores the bindings. -/
theorem Answered.rewind_bindings {after : MatchState}
    (failed : Answered options elements segments none state (false, after)) :
    (after.rewind state.bindings.size).bindings = state.bindings := by
  have entries : after.bindings.entries = state.bindings.entries :=
    failed.entries.trans (List.append_nil _)
  simp only [MatchState.rewind, Bindings.rewind, Bindings.size, entries, List.take_length]

/-- A question without an answer is rightly answered with no, if nothing has changed. -/
theorem answered_false (sound : state.IsSound options elements segments) {after : MatchState}
    (table : after.failed = state.failed) (same : after.bindings = state.bindings) :
    Answered options elements segments none state (false, after) :=
  ⟨fun element segment inside known => sound element segment inside (table ▸ known), rfl,
    by rw [same]; exact (List.append_nil _).symm⟩

/-- Going back after a failed attempt leaves a failed attempt. -/
theorem Answered.rewind {after : MatchState}
    (failed : Answered options elements segments none state (false, after)) :
    Answered options elements segments none state (false, after.rewind state.bindings.size) :=
  ⟨failed.sound, rfl, by rw [failed.rewind_bindings]; exact (List.append_nil _).symm⟩

/-- Going back to before a capture undoes that capture as well. -/
theorem Answered.rewind_capture {after : MatchState} {name value : String}
    (failed : Answered options elements segments none (state.capture name value) (false, after)) :
    Answered options elements segments none state (false, after.rewind state.bindings.size) := by
  have entries : after.bindings.entries = state.bindings.entries ++ [(name, value)] :=
    failed.entries.trans (List.append_nil _)
  refine ⟨failed.sound, rfl, ?_⟩
  simp [MatchState.rewind, Bindings.rewind, Bindings.size, entries]

/-- Trying all tails in turn answers as the search for the shortest run does. -/
theorem firstTail_answered (rest : List PatternElement)
    (attempt : List String → Nat → MatchState → Bool × MatchState)
    (attempts : ∀ segment, segment ≤ segments.length → ∀ before : MatchState,
      before.IsSound options elements segments →
        Answered options elements segments
          ((firstSharing? options rest (segments.drop segment)).map (boundValues rest))
          before (attempt (segments.drop segment) segment before))
    {segment : Nat} (inside : segment ≤ segments.length)
    (sound : state.IsSound options elements segments) :
    Answered options elements segments
      ((firstSplit? (firstSharing? options rest) (segments.drop segment)).map
        fun split => boundValues rest split.2)
      state (firstTail attempt (segments.drop segment) segment state) := by
  generalize remaining : segments.drop segment = tail
  induction tail generalizing segment state with
  | nil =>
    have result := attempts segment inside state sound
    rw [remaining] at result
    simp only [firstTail, firstSplit?, Option.map_map, Function.comp_def]
    rcases attempted : attempt [] segment state with ⟨matched, after⟩
    rw [attempted] at result
    cases matched with
    | true => exact result
    | false =>
      have refused := result.eq_none
      rw [refused] at result
      rw [Option.map_eq_none_iff.mp refused]
      exact result.rewind
  | cons first tail ih =>
    have result := attempts segment inside state sound
    rw [remaining] at result
    simp only [firstTail, firstSplit?]
    rcases attempted : attempt (first :: tail) segment state with ⟨matched, after⟩
    rw [attempted] at result
    cases matched with
    | true =>
      obtain ⟨values, bound⟩ := Option.isSome_iff_exists.mp result.isSome.symm
      obtain ⟨runs, found, same⟩ := Option.map_eq_some_iff.mp bound
      rw [found] at result ⊢
      exact result
    | false =>
      have refused := result.eq_none
      rw [refused] at result
      rw [Option.map_eq_none_iff.mp refused]
      obtain ⟨inside, further⟩ := next_item remaining
      have kept : (after.rewind state.bindings.size).IsSound options elements segments := result.sound
      have later := ih inside kept further
      simpa only [Option.map_map, Function.comp_def] using later.of_bindings result.rewind_bindings

theorem valuesFrom?_of_takesOne {element segment : Nat} {first : PatternElement}
    {rest : List PatternElement} {taken : String} {tail : List String}
    (suffix : elements.drop element = first :: rest)
    (remaining : segments.drop segment = taken :: tail)
    (takes : first.takesOne options taken = true) :
    valuesFrom? options elements segments element segment =
      (valuesFrom? options elements segments (element + 1) (segment + 1)).map
        ((first.binding? [taken]).toList ++ ·) := by
  have later : elements.drop (element + 1) = rest := (next_item suffix).2
  simp only [valuesFrom?, suffix, remaining, later, (next_item remaining).2,
    firstSharing?_of_takesOne takes, Option.map_map]
  congr 1
  funext runs
  cases bound : first.binding? [taken] <;> simp [boundValues, bound]

theorem valuesFrom?_of_not_takesOne {element segment : Nat} {first : PatternElement}
    {rest : List PatternElement} {taken : String} {tail : List String}
    (suffix : elements.drop element = first :: rest)
    (remaining : segments.drop segment = taken :: tail) (closed : first.isOpen = false)
    (refuses : first.takesOne options taken = false) :
    valuesFrom? options elements segments element segment = none := by
  rw [valuesFrom?, suffix, remaining]
  cases first with
  | multi => contradiction
  | captureRest name => contradiction
  | _ => simp only [firstSharing?, refuses, Bool.false_eq_true, if_false, Option.map_none]

theorem valuesFrom?_of_nil {element segment : Nat} {first : PatternElement}
    {rest : List PatternElement} (suffix : elements.drop element = first :: rest)
    (remaining : segments.drop segment = []) (closed : first.isOpen = false) :
    valuesFrom? options elements segments element segment = none := by
  rw [valuesFrom?, suffix, remaining]
  cases first with
  | multi => contradiction
  | captureRest name => contradiction
  | _ => rfl

theorem answered_of_takesOne {element segment : Nat} {first : PatternElement}
    {rest : List PatternElement} {taken : String} {tail : List String}
    (suffix : elements.drop element = first :: rest)
    (remaining : segments.drop segment = taken :: tail) (closed : first.isOpen = false)
    (unbound : first.binding? [taken] = none) (sound : state.IsSound options elements segments)
    {later : Bool × MatchState}
    (result : Answered options elements segments
      (valuesFrom? options elements segments (element + 1) (segment + 1)) state later) :
    Answered options elements segments (valuesFrom? options elements segments element segment)
      state (if first.takesOne options taken then later else (false, state)) := by
  split
  next takes =>
    rw [valuesFrom?_of_takesOne suffix remaining takes, unbound]
    simpa only [Option.toList_none, List.nil_append, Option.map_id'] using result
  next refuses =>
    rw [valuesFrom?_of_not_takesOne suffix remaining closed (Bool.eq_false_iff.mpr refuses)]
    exact answered_false sound rfl rfl

/-- An element that takes one segment fails where there is none. -/
theorem answered_of_nil {element segment : Nat} {first : PatternElement}
    {rest : List PatternElement} (suffix : elements.drop element = first :: rest)
    (remaining : segments.drop segment = []) (closed : first.isOpen = false)
    (sound : state.IsSound options elements segments) :
    Answered options elements segments (valuesFrom? options elements segments element segment)
      state (false, state) := by
  rw [valuesFrom?_of_nil suffix remaining closed]
  exact answered_false sound rfl rfl

/-- A capture binds the segment that it takes, unless the elements behind it fail. -/
theorem answered_of_capture {element segment : Nat} {name taken : String}
    {rest : List PatternElement} {tail : List String}
    (suffix : elements.drop element = .capture name :: rest)
    (remaining : segments.drop segment = taken :: tail) (later : Bool × MatchState) :
    Answered options elements segments
        (valuesFrom? options elements segments (element + 1) (segment + 1))
        (state.capture name taken) later →
      Answered options elements segments (valuesFrom? options elements segments element segment)
        state (match later with
          | (true, after) => (true, after)
          | (false, after) => (false, after.rewind state.bindings.size)) := by
  intro result
  rw [valuesFrom?_of_takesOne suffix remaining rfl]
  obtain ⟨matched, after⟩ := later
  cases matched with
  | true =>
    refine ⟨result.sound, result.isSome.trans Option.isSome_map.symm, ?_⟩
    obtain ⟨values, bound⟩ := Option.isSome_iff_exists.mp result.isSome.symm
    simpa [bound, MatchState.capture, Bindings.capture, PatternElement.binding?]
      using result.entries
  | false =>
    have refused := result.eq_none
    rw [refused] at result ⊢
    exact result.rewind_capture

/-- The matcher answers as the search without a table does. -/
theorem matchFrom_answered {rest : List PatternElement} {element segment : Nat}
    (suffix : elements.drop element = rest) (inside : segment ≤ segments.length)
    (sound : state.IsSound options elements segments) :
    Answered options elements segments (valuesFrom? options elements segments element segment)
      state (PatternElement.matchFrom options segments.length rest element (segments.drop segment)
        segment state) := by
  induction rest generalizing element segment state with
  | nil =>
    refine ask_answered inside sound fun next sound => ?_
    simp only [valuesFrom?, suffix, firstSharing?]
    cases segments.drop segment with
    | nil => exact ⟨sound, rfl, (List.append_nil _).symm⟩
    | cons => exact ⟨sound, rfl, (List.append_nil _).symm⟩
  | cons first rest ih =>
    have later : elements.drop (element + 1) = rest := (next_item suffix).2
    cases first with
    | multi =>
      refine ask_answered inside sound fun next sound => ?_
      have attempts : ∀ segment, segment ≤ segments.length → ∀ before : MatchState,
          before.IsSound options elements segments →
            Answered options elements segments
              ((firstSharing? options rest (segments.drop segment)).map (boundValues rest)) before
              (PatternElement.matchFrom options segments.length rest (element + 1)
                (segments.drop segment) segment before) := by
        intro segment inside before sound
        have result := ih later inside sound
        rwa [valuesFrom?, later] at result
      simp only [valuesFrom?, suffix, firstSharing?, Option.map_map]
      exact firstTail_answered rest (fun tail segment state =>
        PatternElement.matchFrom options segments.length rest (element + 1) tail segment state)
        attempts inside sound
    | captureRest name =>
      refine ask_answered inside sound fun next sound => ?_
      simp only [valuesFrom?, suffix, firstSharing?]
      refine ⟨sound, rfl, ?_⟩
      simp [MatchState.capture, Bindings.capture, boundValues, PatternElement.binding?]
    | capture name =>
      refine ask_answered inside sound fun next sound => ?_
      cases remaining : segments.drop segment with
      | nil => exact answered_of_nil suffix remaining rfl sound
      | cons taken tail =>
        obtain ⟨inside, rfl⟩ := next_item remaining
        have captured : (next.capture name taken).IsSound options elements segments := sound
        exact answered_of_capture suffix remaining _ (ih later inside captured)
    | literal text | glob text =>
      refine ask_answered inside sound fun next sound => ?_
      cases remaining : segments.drop segment with
      | nil => exact answered_of_nil suffix remaining rfl sound
      | cons taken tail =>
        obtain ⟨inside, rfl⟩ := next_item remaining
        exact answered_of_takesOne suffix remaining rfl rfl sound (ih later inside sound)

end Table

end RouteProbe
