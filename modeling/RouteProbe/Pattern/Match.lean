import RouteProbe.Pattern.Basic
import RouteProbe.Pattern.Bindings
import RouteProbe.Pattern.Glob
import RouteProbe.Text.Split

/-! # Matching patterns

A path matches if its segments can be shared out among the elements of the pattern in order. A
double star tries to take no segment, then one, then two, and so on; the first way that works
decides the bindings. A table remembers which elements have failed on which remaining segments, so
that no such pair is looked at twice, however many double stars there are.
-/

namespace RouteProbe

/-- One question put to the matcher: do the elements from `element` on match the segments from
`segment` on? A question already answered with no is not looked into again. -/
structure MatchVisit where
  element : Nat
  segment : Nat
  fresh : Bool
  deriving DecidableEq, Repr

/-- What the matcher knows on its way. -/
structure MatchState where
  bindings : Bindings
  /-- Which questions were answered with no, by slot. -/
  failed : Array Bool
  /-- The questions put so far, the latest first. -/
  visits : List MatchVisit

namespace MatchState

/-- The state before the first question, for that many elements and segments. -/
def start (elements segments : Nat) : MatchState :=
  ⟨{}, Array.replicate ((elements + 1) * (segments + 1)) false, []⟩

def capture (state : MatchState) (name value : String) : MatchState :=
  { state with bindings := state.bindings.capture name value }

/-- Forgets the captures made since there were `mark` of them. -/
def rewind (state : MatchState) (mark : Nat) : MatchState :=
  { state with bindings := state.bindings.rewind mark }

end MatchState

/-- The slot of a question in the table of failures, with `segments` segments in the path. -/
def failureSlot (segments element segment : Nat) : Nat := element * (segments + 1) + segment

/-- Puts a question: looks it up among the failures, else has `answer` look into it, and remembers
a no. -/
def MatchState.ask (segments element segment : Nat) (answer : MatchState → Bool × MatchState)
    (state : MatchState) : Bool × MatchState :=
  let slot := failureSlot segments element segment
  let known := state.failed.getD slot false
  let state := { state with visits := ⟨element, segment, !known⟩ :: state.visits }
  if known then (false, state)
  else match answer state with
    | (true, state) => (true, state)
    | (false, state) => (false, { state with failed := state.failed.setIfInBounds slot true })

/-- Tries the remaining segments, then all but the first, and so on down to none, going back to
the bindings there were before each attempt. -/
def firstTail (attempt : List String → Nat → MatchState → Bool × MatchState) :
    List String → Nat → MatchState → Bool × MatchState
  | [], segment, state =>
    match attempt [] segment state with
    | (true, after) => (true, after)
    | (false, after) => (false, after.rewind state.bindings.size)
  | first :: rest, segment, state =>
    match attempt (first :: rest) segment state with
    | (true, after) => (true, after)
    | (false, after) =>
      firstTail attempt rest (segment + 1) (after.rewind state.bindings.size)

def restValue (segments : List String) : String := String.join (segments.map ("/" ++ ·))

namespace PatternElement

/-- Whether a literal or a glob accepts a segment; the other elements accept every one. -/
def accepts (options : PatternOptions) (segment : String) : PatternElement → Bool
  | literal text => options.fold segment == text
  | glob text => Glob.isMatch text (options.fold segment)
  | _ => true

/-- Matches elements, of which the first has number `element`, with the remaining segments, of
which the first has number `segment` out of `total`. -/
def matchFrom (options : PatternOptions) (total : Nat) :
    List PatternElement → Nat → List String → Nat → MatchState → Bool × MatchState
  | [], element, remaining, segment, state =>
    state.ask total element segment fun state => (remaining.isEmpty, state)
  | multi :: rest, element, remaining, segment, state =>
    state.ask total element segment fun state =>
      firstTail
        (fun tail segment state => matchFrom options total rest (element + 1) tail segment state)
        remaining segment state
  | captureRest name :: _, element, remaining, segment, state =>
    state.ask total element segment fun state => (true, state.capture name (restValue remaining))
  | capture name :: rest, element, remaining, segment, state =>
    state.ask total element segment fun state =>
      match remaining with
      | [] => (false, state)
      | first :: tail =>
        match matchFrom options total rest (element + 1) tail (segment + 1)
            (state.capture name first) with
        | (true, after) => (true, after)
        | (false, after) => (false, after.rewind state.bindings.size)
  | literal text :: rest, element, remaining, segment, state =>
    state.ask total element segment fun state =>
      match remaining with
      | [] => (false, state)
      | first :: tail =>
        if accepts options first (literal text) then
          matchFrom options total rest (element + 1) tail (segment + 1) state
        else (false, state)
  | glob text :: rest, element, remaining, segment, state =>
    state.ask total element segment fun state =>
      match remaining with
      | [] => (false, state)
      | first :: tail =>
        if accepts options first (glob text) then
          matchFrom options total rest (element + 1) tail (segment + 1) state
        else (false, state)

end PatternElement

namespace PathPattern

/-- Whether the slashes at the two ends of a path are as the pattern wants them. -/
def fitsEnds (pattern : PathPattern) (path : String) : Bool :=
  let trailing := Text.closesWith '/' (Text.dropOpening '/' path)
  Text.opensWith '/' path == pattern.leading &&
    (pattern.endsOpen || trailing == pattern.trailing ||
      (trailing && pattern.options.optionalTrailing))

/-- Shares the segments of a path out among the elements. -/
def run (pattern : PathPattern) (segments : List String) : Bool × MatchState :=
  PatternElement.matchFrom pattern.options segments.length pattern.elements 0 segments 0
    (.start pattern.elements.length segments.length)

/-- The bindings of a path that matches the pattern. -/
def match? (pattern : PathPattern) (path : String) : Option Bindings :=
  if pattern.fitsEnds path then
    match pattern.run (Text.segments (Text.dropOpening '/' path)) with
    | (true, state) => some state.bindings
    | (false, _) => none
  else none

def isMatch (pattern : PathPattern) (path : String) : Bool := (pattern.match? path).isSome

end PathPattern

end RouteProbe
