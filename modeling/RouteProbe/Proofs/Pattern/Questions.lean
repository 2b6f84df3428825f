import Mathlib.Logic.Relation
import RouteProbe.Proofs.Pattern.Meaning

/-! # The questions of a match

To look into a question the matcher puts further ones: an element that takes the next segment asks
about what is behind both, and a double star asks about one tail after another, until one is
answered with yes. The table of failures changes only when a question has been answered with no. So
it is enough to look at it whenever a question is put and when it has been answered
(`MatchQuestion.Leads`): there every no in the table is right (`MatchQuestion.InPlace`), and the
matcher notes no question down but those (`MatchQuestion.traces_of_mem_visits`).
-/

namespace RouteProbe

/-- Whether the table has a no to a question, with `total` segments in the path. -/
def MatchState.marks (total : Nat) (state : MatchState) (element segment : Nat) : Bool :=
  state.failed.getD (failureSlot total element segment) false

/-- The state behind a segment that an element has taken. -/
def MatchState.behind (state : MatchState) : PatternElement → String → MatchState
  | .capture name, taken => state.capture name taken
  | _, _ => state

/-- A question put to the matcher: the elements and the segments it is about, with the numbers of
the first of each, and the state in which it is put. -/
structure MatchQuestion where
  elements : List PatternElement
  element : Nat
  remaining : List String
  segment : Nat
  state : MatchState

namespace MatchQuestion

/-- What the matcher makes of a question. -/
def answer (options : PatternOptions) (total : Nat) (question : MatchQuestion) : Bool × MatchState :=
  PatternElement.matchFrom options total question.elements question.element question.remaining
    question.segment question.state

/-- Whether the question is answered by the table. -/
def isKnown (total : Nat) (question : MatchQuestion) : Bool :=
  question.state.marks total question.element question.segment

/-- How the question is noted down. -/
def visit (total : Nat) (question : MatchQuestion) : MatchVisit :=
  ⟨question.element, question.segment, !question.isKnown total⟩

/-- The state in which the question is looked into. -/
def noted (total : Nat) (question : MatchQuestion) : MatchState :=
  { question.state with visits := question.visit total :: question.state.visits }

/-- The questions that are put to look into a question. -/
inductive Leads (options : PatternOptions) (total : Nat) (question : MatchQuestion) :
    MatchQuestion → Prop
  /-- An element that takes the next segment asks about what is behind both. -/
  | one {first : PatternElement} {rest : List PatternElement} {taken : String} {tail : List String}
      (unknown : question.isKnown total = false) (elements : question.elements = first :: rest)
      (remaining : question.remaining = taken :: tail) (takes : first.takesOne options taken = true) :
      Leads options total question ⟨rest, question.element + 1, tail, question.segment + 1,
        (question.noted total).behind first taken⟩
  /-- A double star first asks about all that remains. -/
  | star {rest : List PatternElement} (unknown : question.isKnown total = false)
      (elements : question.elements = .multi :: rest) :
      Leads options total question ⟨rest, question.element + 1, question.remaining, question.segment,
        question.noted total⟩
  /-- After a no the double star takes one segment more. -/
  | again {rest : List PatternElement} {attempt : MatchQuestion} {after : MatchState} {taken : String}
      {tail : List String} (elements : question.elements = .multi :: rest)
      (earlier : Leads options total question attempt)
      (failed : attempt.answer options total = (false, after))
      (remaining : attempt.remaining = taken :: tail) :
      Leads options total question ⟨rest, question.element + 1, tail, attempt.segment + 1,
        after.rewind attempt.state.bindings.size⟩

/-! ## The table -/

/-- Whether a question is about some elements and segments, from its two numbers on, and is put
while every no in the table is right. -/
structure InPlace (options : PatternOptions) (elements : List PatternElement) (segments : List String)
    (question : MatchQuestion) : Prop where
  suffix : elements.drop question.element = question.elements
  remaining : segments.drop question.segment = question.remaining
  inside : question.segment ≤ segments.length
  sound : question.state.IsSound options elements segments

variable {options : PatternOptions} {elements : List PatternElement} {segments : List String}
  {question next : MatchQuestion} {total : Nat} {visit : MatchVisit}

/-- Every no in the table is right when the question has been answered. -/
theorem InPlace.answer_sound (place : question.InPlace options elements segments) :
    (question.answer options segments.length).2.IsSound options elements segments := by
  have answered := matchFrom_answered place.suffix place.inside place.sound
  rw [place.remaining] at answered
  exact answered.sound

/-- Looking into a question leads to such questions again. -/
theorem Leads.inPlace (leads : Leads options segments.length question next)
    (place : question.InPlace options elements segments) : next.InPlace options elements segments := by
  have later {first : PatternElement} {rest : List PatternElement}
      (same : question.elements = first :: rest) : elements.drop (question.element + 1) = rest :=
    (next_item (place.suffix.trans same)).2
  induction leads with
  | @one first _ _ _ _ same remaining _ =>
    obtain ⟨inside, further⟩ := next_item (place.remaining.trans remaining)
    refine ⟨later same, further, inside, ?_⟩
    cases first <;> exact place.sound
  | star _ same => exact ⟨later same, place.remaining, place.inside, place.sound⟩
  | again same _ failed remaining ih =>
    obtain ⟨inside, further⟩ := next_item (ih.remaining.trans remaining)
    have sound := ih.answer_sound
    rw [failed] at sound
    exact ⟨later same, further, inside, sound⟩

/-- However far the matcher has come, its questions are such. -/
theorem InPlace.of_leads (place : question.InPlace options elements segments)
    (leads : Relation.ReflTransGen (Leads options segments.length) question next) :
    next.InPlace options elements segments := by
  induction leads with
  | refl => exact place
  | tail _ step ih => exact step.inPlace ih

/-! ## The questions noted down -/

/-- Whether a note is from before a question is put, or of a question that it leads to. -/
def Traces (options : PatternOptions) (total : Nat) (question : MatchQuestion) (visit : MatchVisit) :
    Prop :=
  visit ∈ question.state.visits ∨
    ∃ later, Relation.ReflTransGen (Leads options total) question later ∧ later.visit total = visit

theorem traces_of_mem_noted (member : visit ∈ (question.noted total).visits) :
    question.Traces options total visit := by
  rcases List.mem_cons.mp member with rfl | earlier
  · exact .inr ⟨question, .refl, rfl⟩
  · exact .inl earlier

/-- What traces to a question that another one leads to traces to that one. -/
theorem Leads.traces (leads : Leads options total question next)
    (before : ∀ visit ∈ next.state.visits, question.Traces options total visit)
    (traces : next.Traces options total visit) : question.Traces options total visit := by
  rcases traces with earlier | ⟨later, further, rfl⟩
  · exact before _ earlier
  · exact .inr ⟨later, .head leads further, rfl⟩

theorem traces_of_mem_ask (question : MatchQuestion) {look : MatchState → Bool × MatchState}
    (member : visit ∈ (question.state.ask total question.element question.segment look).2.visits)
    (looked : question.isKnown total = false → visit ∈ (look (question.noted total)).2.visits →
      question.Traces options total visit) : question.Traces options total visit := by
  unfold MatchState.ask at member
  dsimp only at member
  split at member
  next => exact traces_of_mem_noted member
  next unknown =>
    apply looked (Bool.eq_false_iff.mpr unknown)
    split at member
    next after attempted => exact attempted ▸ member
    next after attempted => exact attempted ▸ member

/-- The tails that a double star tries are questions that it leads to. -/
theorem Leads.traces_firstTail {rest : List PatternElement}
    (same : question.elements = .multi :: rest)
    (attempts : ∀ tail segment state, ∀ visit ∈ (PatternElement.matchFrom options total rest
      (question.element + 1) tail segment state).2.visits,
        Traces options total ⟨rest, question.element + 1, tail, segment, state⟩ visit)
    {tail : List String} {segment : Nat} {state : MatchState}
    (leads : Leads options total question ⟨rest, question.element + 1, tail, segment, state⟩)
    (before : ∀ visit ∈ state.visits, question.Traces options total visit)
    (member : visit ∈ (firstTail (fun tail segment state => PatternElement.matchFrom options total
      rest (question.element + 1) tail segment state) tail segment state).2.visits) :
    question.Traces options total visit := by
  induction tail generalizing segment state with
  | nil =>
    have noted := attempts [] segment state
    unfold firstTail at member
    split at member
    next after attempted =>
      rw [attempted] at noted
      exact leads.traces before (noted _ member)
    next after attempted =>
      rw [attempted] at noted
      exact leads.traces before (noted _ member)
  | cons first tail ih =>
    have noted := attempts (first :: tail) segment state
    unfold firstTail at member
    split at member
    next after attempted =>
      rw [attempted] at noted
      exact leads.traces before (noted _ member)
    next after attempted =>
      rw [attempted] at noted
      exact ih (leads.again same attempted rfl)
        (fun visit earlier => leads.traces before (noted visit earlier)) member

/-- An element that takes the next segment puts no question of its own but the one behind both. -/
theorem traces_of_takesOne {first : PatternElement} {rest : List PatternElement} {taken : String}
    {tail : List String} (unknown : question.isKnown total = false)
    (same : question.elements = first :: rest) (remaining : question.remaining = taken :: tail)
    (takes : first.takesOne options taken = true)
    (traces : Traces options total ⟨rest, question.element + 1, tail, question.segment + 1,
      (question.noted total).behind first taken⟩ visit) :
    question.Traces options total visit := by
  refine (Leads.one unknown same remaining takes).traces (fun visit earlier => ?_) traces
  apply traces_of_mem_noted
  cases first <;> exact earlier

theorem traces_of_mem_visits (question : MatchQuestion)
    (member : visit ∈ (question.answer options total).2.visits) :
    question.Traces options total visit := by
  obtain ⟨elements, element, remaining, segment, state⟩ := question
  induction elements generalizing element remaining segment state visit with
  | nil =>
    exact traces_of_mem_ask ⟨[], element, remaining, segment, state⟩ member fun _ =>
      traces_of_mem_noted
  | cons first rest ih =>
    let question : MatchQuestion := ⟨first :: rest, element, remaining, segment, state⟩
    cases first with
    | multi =>
      refine traces_of_mem_ask question member fun unknown later => ?_
      have leads : Leads options total question ⟨rest, element + 1, remaining, segment,
        question.noted total⟩ := .star unknown rfl
      exact leads.traces_firstTail rfl (fun tail segment state visit => ih _ tail segment state)
        (fun visit => traces_of_mem_noted) later
    | captureRest name =>
      exact traces_of_mem_ask question member fun _ => traces_of_mem_noted
    | capture name =>
      refine traces_of_mem_ask question member fun unknown later => ?_
      cases remaining with
      | nil => exact traces_of_mem_noted later
      | cons taken tail =>
        refine traces_of_takesOne unknown rfl rfl rfl (ih _ _ _ _ ?_)
        change visit ∈ (PatternElement.matchFrom options total rest (element + 1) tail (segment + 1)
          ((question.noted total).capture name taken)).2.visits
        dsimp only at later
        split at later
        next after attempted => exact attempted ▸ later
        next after attempted => exact attempted ▸ later
    | literal text | glob text =>
      refine traces_of_mem_ask question member fun unknown later => ?_
      cases remaining with
      | nil => exact traces_of_mem_noted later
      | cons taken tail =>
        dsimp only at later
        split at later
        next takes => exact traces_of_takesOne unknown rfl rfl takes (ih _ _ _ _ later)
        next => exact traces_of_mem_noted later

end MatchQuestion

end RouteProbe
