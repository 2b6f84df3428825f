import Mathlib.Data.List.Perm.Subperm
import Mathlib.Data.List.ProdSigma
import RouteProbe.Proofs.Pattern.Questions

/-! # No question is looked into twice

What keeps patterns with many double stars from being tried over and over is that a yes goes all the
way up without a further question, and a no is remembered. So everything that a failed attempt has
looked into is in the table when the next attempt begins (`LooksOnce.trans`), and no pair of an
element and a segment is looked into again.
-/

namespace RouteProbe

/-- The pairs of an element and a segment that were looked into. -/
def lookedInto (visits : List MatchVisit) : List (Nat × Nat) :=
  (visits.filter (·.fresh)).map fun visit => (visit.element, visit.segment)

theorem lookedInto_append (later earlier : List MatchVisit) :
    lookedInto (later ++ earlier) = lookedInto later ++ lookedInto earlier := by
  rw [lookedInto, List.filter_append, List.map_append]
  rfl

theorem failureSlot_lt {limit total element segment : Nat} (within : element ≤ limit)
    (inside : segment ≤ total) :
    failureSlot total element segment < (limit + 1) * (total + 1) :=
  calc element * (total + 1) + segment
    _ < (element + 1) * (total + 1) := by rw [Nat.succ_mul]; omega
    _ ≤ (limit + 1) * (total + 1) := Nat.mul_le_mul_right _ (Nat.succ_le_succ within)

/-- The state in which a no is remembered. -/
def MatchState.remember (total element segment : Nat) (state : MatchState) : MatchState :=
  { state with failed := state.failed.setIfInBounds (failureSlot total element segment) true }

theorem MatchState.marks_remember_self {total element segment : Nat} {state : MatchState}
    (room : failureSlot total element segment < state.failed.size) :
    (state.remember total element segment).marks total element segment = true := by
  simp [marks, remember, room]

theorem MatchState.marks_remember_of_marks {total element segment : Nat} {state : MatchState}
    (marked : state.marks total element segment = true) (other position : Nat) :
    (state.remember total other position).marks total element segment = true := by
  rw [marks, Array.getD_eq_getD_getElem?] at marked ⊢
  rw [remember, Array.getElem?_setIfInBounds]
  split
  next same =>
    split
    next => rfl
    next outside =>
      rw [← same, Array.getElem?_eq_none (Nat.le_of_not_lt outside)] at marked
      contradiction
  next => exact marked

/-- The state in which a question has been noted down. -/
def MatchState.noting (state : MatchState) (visit : MatchVisit) : MatchState :=
  { state with visits := visit :: state.visits }

theorem MatchState.ask_of_marks {total element segment : Nat} {state : MatchState}
    {look : MatchState → Bool × MatchState} (known : state.marks total element segment = true) :
    state.ask total element segment look = (false, state.noting ⟨element, segment, false⟩) := by
  rw [marks] at known
  rw [ask, known]
  rfl

theorem MatchState.ask_of_looked {total element segment : Nat} {state after : MatchState}
    {look : MatchState → Bool × MatchState} {yes : Bool}
    (unknown : state.marks total element segment = false)
    (looked : look (state.noting ⟨element, segment, true⟩) = (yes, after)) :
    state.ask total element segment look =
      (yes, if yes then after else after.remember total element segment) := by
  rw [marks] at unknown
  rw [noting] at looked
  rw [ask, unknown, Bool.not_false, looked]
  cases yes <;> rfl

/-- An attempt looks at nothing that the table answers and at nothing twice, only at elements from a
number on, and if it fails the table answers all of it. -/
structure LooksOnce (limit total first : Nat) (before : MatchState) (answer : Bool × MatchState) :
    Prop where
  size_eq : answer.2.failed.size = before.failed.size
  grows : ∀ element segment, before.marks total element segment = true →
    answer.2.marks total element segment = true
  exists_new : ∃ visits, answer.2.visits = visits ++ before.visits ∧ (lookedInto visits).Nodup ∧
    ∀ pair ∈ lookedInto visits, (first ≤ pair.1 ∧ pair.1 ≤ limit ∧ pair.2 ≤ total) ∧
      before.marks total pair.1 pair.2 = false ∧
      (answer.1 = false → answer.2.marks total pair.1 pair.2 = true)

section Attempts

variable {options : PatternOptions} {limit total first : Nat} {before middle state : MatchState}
  {answer : Bool × MatchState}

theorem looksOnce_of_same {after : MatchState} (yes : Bool) (table : after.failed = before.failed)
    (visits : after.visits = before.visits) : LooksOnce limit total first before (yes, after) where
  size_eq := congrArg Array.size table
  grows element segment marked := by rwa [MatchState.marks, table]
  exists_new := ⟨[], visits, List.nodup_nil, fun pair member => absurd member List.not_mem_nil⟩

/-- What a failed attempt has looked at is in the table, so the next one does
not look at it again. -/
theorem LooksOnce.trans (failed : LooksOnce limit total first before (false, middle))
    (next : LooksOnce limit total first middle answer) :
    LooksOnce limit total first before answer := by
  obtain ⟨earlier, noted, distinct, looked⟩ := failed.exists_new
  obtain ⟨later, notedNext, distinctNext, lookedNext⟩ := next.exists_new
  refine ⟨next.size_eq.trans failed.size_eq,
    fun element segment marked => next.grows element segment (failed.grows element segment marked),
    later ++ earlier, ?noted, ?distinct, ?looked⟩
  case noted => rw [notedNext, noted, List.append_assoc]
  case distinct =>
    rw [lookedInto_append]
    refine List.nodup_append.mpr ⟨distinctNext, distinct, ?_⟩
    rintro pair memberNext _ member rfl
    have marked := (looked pair member).2.2 rfl
    have unmarked := (lookedNext pair memberNext).2.1
    rw [marked] at unmarked
    contradiction
  case looked =>
    intro pair member
    rw [lookedInto_append] at member
    rcases List.mem_append.mp member with memberNext | member
    · obtain ⟨range, unmarked, marked⟩ := lookedNext pair memberNext
      have unmarkedBefore := Bool.eq_false_iff.mpr fun already =>
        Bool.eq_false_iff.mp unmarked (failed.grows _ _ already)
      exact ⟨range, unmarkedBefore, marked⟩
    · obtain ⟨range, unmarked, marked⟩ := looked pair member
      exact ⟨range, unmarked, fun _ => next.grows _ _ (marked rfl)⟩

/-- A question is no later than those that are put to look into it, so it is not among them. -/
theorem LooksOnce.exists_noted {element segment : Nat} {yes : Bool} {after : MatchState}
    (once : LooksOnce limit total (element + 1) (state.noting ⟨element, segment, true⟩) (yes, after))
    (unknown : state.marks total element segment = false) (within : element ≤ limit)
    (inside : segment ≤ total) :
    ∃ visits, after.visits = visits ++ state.visits ∧ (lookedInto visits).Nodup ∧
      ∀ pair ∈ lookedInto visits, (element ≤ pair.1 ∧ pair.1 ≤ limit ∧ pair.2 ≤ total) ∧
        state.marks total pair.1 pair.2 = false ∧
        (pair = (element, segment) ∨ (yes = false → after.marks total pair.1 pair.2 = true)) := by
  obtain ⟨visits, noted, distinct, ranges⟩ := once.exists_new
  have entered : lookedInto (visits ++ [⟨element, segment, true⟩]) =
      lookedInto visits ++ [(element, segment)] := lookedInto_append ..
  refine ⟨visits ++ [⟨element, segment, true⟩], ?noted, ?distinct, ?ranges⟩
  case noted =>
    rw [noted, List.append_assoc]
    rfl
  case distinct =>
    rw [entered]
    refine List.nodup_append.mpr ⟨distinct, List.pairwise_singleton .., ?_⟩
    rintro pair member _ same rfl
    obtain rfl := List.mem_singleton.mp same
    exact Nat.not_succ_le_self _ (ranges _ member).1.1
  case ranges =>
    intro pair member
    rw [entered] at member
    rcases List.mem_append.mp member with later | same
    · obtain ⟨⟨above, below⟩, unmarked, marked⟩ := ranges pair later
      exact ⟨⟨Nat.le_of_succ_le above, below⟩, unmarked, .inr marked⟩
    · obtain rfl := List.mem_singleton.mp same
      exact ⟨⟨Nat.le_refl _, within, inside⟩, unknown, .inl rfl⟩

/-- A question looks at itself and, if the table does not answer it, at what is asked to look into
it. -/
theorem ask_looksOnce {element segment : Nat} {look : MatchState → Bool × MatchState}
    (room : state.failed.size = (limit + 1) * (total + 1)) (within : element ≤ limit)
    (inside : segment ≤ total)
    (looks : ∀ noted : MatchState, noted.failed = state.failed →
      LooksOnce limit total (element + 1) noted (look noted)) :
    LooksOnce limit total element state (state.ask total element segment look) := by
  cases known : state.marks total element segment with
  | true =>
    rw [MatchState.ask_of_marks known]
    exact ⟨rfl, fun _ _ marked => marked, [⟨element, segment, false⟩], rfl, List.nodup_nil,
      fun pair member => absurd member List.not_mem_nil⟩
  | false =>
    rcases looked : look (state.noting ⟨element, segment, true⟩) with ⟨yes, after⟩
    have once := looks (state.noting ⟨element, segment, true⟩) rfl
    rw [looked] at once
    obtain ⟨visits, noted, distinct, ranges⟩ := once.exists_noted known within inside
    have size : after.failed.size = state.failed.size := once.size_eq
    rw [MatchState.ask_of_looked known looked]
    cases yes with
    | true =>
      refine ⟨size, once.grows, visits, noted, distinct, fun pair member => ?_⟩
      exact ⟨(ranges pair member).1, (ranges pair member).2.1, nofun⟩
    | false =>
      have slot : failureSlot total element segment < after.failed.size := by
        rw [size, room]
        exact failureSlot_lt within inside
      refine ⟨Array.size_setIfInBounds.trans size, fun other position marked => ?grows, visits, noted,
        distinct, fun pair member => ?marked⟩
      case grows => exact MatchState.marks_remember_of_marks (once.grows other position marked) ..
      case marked =>
        obtain ⟨range, unmarked, same | marked⟩ := ranges pair member
        · subst same
          exact ⟨range, unmarked, fun _ => MatchState.marks_remember_self slot⟩
        · exact ⟨range, unmarked, fun _ => MatchState.marks_remember_of_marks (marked rfl) ..⟩

/-- Going back to earlier bindings changes nothing of it. -/
theorem LooksOnce.rewind {yes : Bool} {after : MatchState}
    (once : LooksOnce limit total first before (yes, after)) (mark : Nat) :
    LooksOnce limit total first before (yes, after.rewind mark) :=
  ⟨once.size_eq, once.grows, once.exists_new⟩

/-- The attempts at all tails in turn are one attempt. -/
theorem firstTail_looksOnce {attempt : List String → Nat → MatchState → Bool × MatchState}
    (attempts : ∀ tail segment, segment + tail.length = total → ∀ before : MatchState,
      before.failed.size = (limit + 1) * (total + 1) →
        LooksOnce limit total first before (attempt tail segment before))
    {tail : List String} {segment : Nat} (length : segment + tail.length = total)
    (room : state.failed.size = (limit + 1) * (total + 1)) :
    LooksOnce limit total first state (firstTail attempt tail segment state) := by
  induction tail generalizing segment state with
  | nil =>
    have once := attempts [] segment length state room
    unfold firstTail
    split
    next after attempted => exact attempted ▸ once
    next after attempted => exact (attempted ▸ once).rewind _
  | cons taken tail ih =>
    have once := attempts (taken :: tail) segment length state room
    unfold firstTail
    split
    next after attempted => exact attempted ▸ once
    next after attempted =>
      rw [attempted] at once
      have next : segment + 1 + tail.length = total := by
        rw [← length, List.length_cons]
        omega
      exact (once.rewind _).trans (ih next (once.size_eq.trans room))

/-- The matcher looks at nothing twice. -/
theorem matchFrom_looksOnce {elements : List PatternElement} {element segment : Nat}
    {remaining : List String} (within : element + elements.length = limit)
    (length : segment + remaining.length = total)
    (room : state.failed.size = (limit + 1) * (total + 1)) :
    LooksOnce limit total element state
      (PatternElement.matchFrom options total elements element remaining segment state) := by
  induction elements generalizing element segment remaining state with
  | nil =>
    refine ask_looksOnce room (by omega) (by omega) fun noted table => ?_
    exact looksOnce_of_same _ rfl rfl
  | cons head rest ih =>
    have later : element + 1 + rest.length = limit := by
      rw [← within, List.length_cons]
      omega
    have behind {taken : String} {tail : List String} (same : remaining = taken :: tail)
        (noted : MatchState) (table : noted.failed = state.failed) :
        LooksOnce limit total (element + 1) noted (PatternElement.matchFrom options total rest
          (element + 1) tail (segment + 1) noted) := by
      apply ih later
      · rw [← length, same, List.length_cons]
        omega
      · rw [table, room]
    cases head with
    | multi =>
      refine ask_looksOnce room (by omega) (by omega) fun noted table => ?_
      exact firstTail_looksOnce (fun tail segment length before room => ih later length room) length
        (by rw [table, room])
    | captureRest name =>
      refine ask_looksOnce room (by omega) (by omega) fun noted table => ?_
      exact looksOnce_of_same _ rfl rfl
    | capture name =>
      refine ask_looksOnce room (by omega) (by omega) fun noted table => ?_
      cases remaining with
      | nil => exact looksOnce_of_same _ rfl rfl
      | cons taken tail =>
        have once := behind rfl (noted.capture name taken) table
        dsimp only
        split
        next after attempted =>
          rw [attempted] at once
          exact ⟨once.size_eq, once.grows, once.exists_new⟩
        next after attempted =>
          rw [attempted] at once
          exact ⟨once.size_eq, once.grows, once.exists_new⟩
    | literal text | glob text =>
      refine ask_looksOnce room (by omega) (by omega) fun noted table => ?_
      cases remaining with
      | nil => exact looksOnce_of_same _ rfl rfl
      | cons taken tail =>
        dsimp only
        split
        next => exact behind rfl noted table
        next => exact looksOnce_of_same _ rfl rfl

end Attempts

namespace PathPattern

/-- The questions put to match a path, the latest first; if its ends do not fit there are none. -/
def visitsOf (pattern : PathPattern) (path : String) : List MatchVisit :=
  if pattern.fitsEnds path then
    (pattern.run (Text.segments (Text.dropOpening '/' path))).2.visits
  else []

/-- The question whether all elements match all segments. -/
def firstQuestion (pattern : PathPattern) (segments : List String) : MatchQuestion :=
  ⟨pattern.elements, 0, segments, 0, .start pattern.elements.length segments.length⟩

/-- Whether a question comes up while a path is matched. -/
def ComesUp (pattern : PathPattern) (path : String) (question : MatchQuestion) : Prop :=
  pattern.fitsEnds path = true ∧
    Relation.ReflTransGen (MatchQuestion.Leads pattern.options (Text.segments path).length)
      (pattern.firstQuestion (Text.segments path)) question

variable {options : PatternOptions} {text : String} {pattern : PathPattern}

theorem looksOnce_run (pattern : PathPattern) (segments : List String) :
    LooksOnce pattern.elements.length segments.length 0
      (.start pattern.elements.length segments.length) (pattern.run segments) :=
  matchFrom_looksOnce (Nat.zero_add _) (Nat.zero_add _) Array.size_replicate

/-- No two of the questions that are looked into are the same, and they are all about an element of
the pattern or its end and a segment of the path or its end. -/
theorem lookedInto_visitsOf (pattern : PathPattern) (path : String) :
    (lookedInto (pattern.visitsOf path)).Nodup ∧
      ∀ pair ∈ lookedInto (pattern.visitsOf path),
        pair.1 ≤ pattern.elements.length ∧ pair.2 ≤ (Text.segments path).length := by
  rw [visitsOf, segments_dropOpening]
  split
  next =>
    obtain ⟨visits, noted, distinct, ranges⟩ := (looksOnce_run pattern (Text.segments path)).exists_new
    have all : (pattern.run (Text.segments path)).2.visits = visits := noted.trans (List.append_nil _)
    rw [all]
    exact ⟨distinct, fun pair member => (ranges pair member).1.2⟩
  next => exact ⟨List.nodup_nil, fun pair member => absurd member List.not_mem_nil⟩

theorem length_le_of_nodup {pairs : List (Nat × Nat)} {first second : Nat} (distinct : pairs.Nodup)
    (within : ∀ pair ∈ pairs, pair.1 ≤ first ∧ pair.2 ≤ second) :
    pairs.length ≤ (first + 1) * (second + 1) := by
  have all : pairs ⊆ List.range (first + 1) ×ˢ List.range (second + 1) := by
    rintro ⟨left, right⟩ member
    obtain ⟨leftWithin, rightWithin⟩ := within _ member
    apply List.mem_product.mpr
    exact ⟨List.mem_range.mpr (Nat.lt_succ_of_le leftWithin),
      List.mem_range.mpr (Nat.lt_succ_of_le rightWithin)⟩
  have fewer := (List.subperm_of_subset distinct all).length_le
  rwa [List.length_product, List.length_range, List.length_range] at fewer

/-- A question that comes up is put while every no in the table is right. -/
theorem ComesUp.inPlace {path : String} {question : MatchQuestion}
    (comesUp : pattern.ComesUp path question) :
    question.InPlace pattern.options pattern.elements (Text.segments path) := by
  refine MatchQuestion.InPlace.of_leads ⟨List.drop_zero, List.drop_zero, Nat.zero_le _, ?_⟩ comesUp.2
  exact isSound_start pattern.options pattern.elements (Text.segments path)

/-- Every question noted down comes up. -/
theorem exists_comesUp {path : String} {visit : MatchVisit} (member : visit ∈ pattern.visitsOf path) :
    ∃ question, pattern.ComesUp path question ∧
      question.visit (Text.segments path).length = visit := by
  rw [visitsOf, segments_dropOpening] at member
  split at member
  next fits =>
    rcases (pattern.firstQuestion (Text.segments path)).traces_of_mem_visits member with
      earlier | ⟨question, leads, same⟩
    · cases earlier
    · exact ⟨question, ⟨fits, leads⟩, same⟩
  next => cases member

/-- A no is only right where there is no sharing. -/
theorem not_sharesOut_of_isSound (read : parse options text = .ok pattern) {segments : List String}
    {state : MatchState} (sound : state.IsSound pattern.options pattern.elements segments)
    {element segment : Nat} (inside : segment ≤ segments.length)
    (marked : state.marks segments.length element segment = true) (runs : List (List String)) :
    ¬ SharesOut options (pattern.elements.drop element) (segments.drop segment) runs := by
  obtain ⟨elements, readElements, rfl⟩ := parse_eq_ok_iff.mp read
  intro sharing
  have last := restLast_drop (restLast_of_parseElements readElements) element
  obtain ⟨first, found, _⟩ := sharing.exists_firstSharing? last
  have none := sound element segment inside marked
  rw [valuesFrom?, found] at none
  contradiction

/-- While a path is matched no question is looked into twice, so there are at most as many as there
are pairs of an element or the end of the pattern and a segment or the end of the path. Whenever a
question is put or has been answered, the elements from one on cannot share out the segments from
one on if the table says no to that, and these are all the questions that are noted down. -/
theorem visitsOf_looksOnce (read : parse options text = .ok pattern) (path : String) :
    let segments := Text.segments path
    let pairs := lookedInto (pattern.visitsOf path)
    pairs.Nodup ∧ pairs.length ≤ (pattern.elements.length + 1) * (segments.length + 1) ∧
    (∀ pair ∈ pairs, pair.1 ≤ pattern.elements.length ∧ pair.2 ≤ segments.length) ∧
    (∀ visit ∈ pattern.visitsOf path,
      ∃ question, pattern.ComesUp path question ∧ question.visit segments.length = visit) ∧
    ∀ question, pattern.ComesUp path question →
      ∀ state ∈ [question.state, (question.answer options segments.length).2],
        ∀ element segment, element ≤ pattern.elements.length → segment ≤ segments.length →
          state.marks segments.length element segment = true →
            ¬ ∃ runs,
              SharesOut options (pattern.elements.drop element) (segments.drop segment) runs := by
  intro segments pairs
  obtain ⟨distinct, ranges⟩ := lookedInto_visitsOf pattern path
  refine ⟨distinct, length_le_of_nodup distinct ranges, ranges, fun visit => exists_comesUp, ?_⟩
  intro question comesUp state moment element segment _ inside marked
  rintro ⟨runs, sharing⟩
  have place := comesUp.inPlace
  have sound : state.IsSound pattern.options pattern.elements segments := by
    simp only [List.mem_cons, List.not_mem_nil, or_false] at moment
    rcases moment with rfl | rfl
    · exact place.sound
    · have same : pattern.options = options := by
        obtain ⟨elements, _, rfl⟩ := parse_eq_ok_iff.mp read
        rfl
      exact same ▸ place.answer_sound
  exact not_sharesOut_of_isSound read sound inside marked runs sharing

/-- Ten questions are put, but seven are looked into. At the end the table says no to the second
double star at the first segment. -/
theorem visitsOf_looksOnce_doubled :
    let pattern : PathPattern := ⟨"/**/**/b", [.multi, .multi, .literal "b"], true, false, {}⟩
    parse {} "/**/**/b" = .ok pattern ∧
      (pattern.visitsOf "/a/c").length = 10 ∧ (lookedInto (pattern.visitsOf "/a/c")).length = 7 ∧
      (lookedInto (pattern.visitsOf "/a/c")).Nodup ∧
      ¬ ∃ runs, SharesOut {} [.multi, .literal "b"] ["a", "c"] runs := by
  intro pattern
  have read : parse {} "/**/**/b" = .ok pattern := by rfl
  obtain ⟨distinct, _, _, _, right⟩ := visitsOf_looksOnce read "/a/c"
  have segments : Text.segments "/a/c" = ["a", "c"] := by rfl
  have fits : pattern.fitsEnds "/a/c" = true := by rfl
  have marked : ((pattern.firstQuestion ["a", "c"]).answer {} 2).2.marks 2 1 0 = true := by
    decide +kernel
  rw [segments] at right
  refine ⟨read, by decide +kernel, by decide +kernel, distinct, ?_⟩
  exact right (pattern.firstQuestion ["a", "c"]) ⟨fits, by rw [segments]⟩ _
    (List.mem_cons_of_mem _ (List.mem_singleton_self _)) 1 0 (by decide) (by decide) marked

end PathPattern

end RouteProbe
