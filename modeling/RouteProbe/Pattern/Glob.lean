/-! # Globs

A glob is compared with one segment from the left. Its characters are taken one for one until a
star is met; from then on, whenever the rest of the glob gets stuck, the last star takes one more
character and the comparison goes on behind it. A character that equals the text's is always taken
one for one, also when both are stars.
-/

namespace RouteProbe.Glob

/-- How a comparison without any star to fall back on ends. -/
inductive Walk
  /-- The text is used up; the rest of the glob decides. -/
  | finished (accepted : Bool)
  /-- A star was met, with `glob` behind it and `text` still to come. -/
  | star (glob text : List Char)
  /-- Neither a star nor a fitting character is next. -/
  | stuck
  deriving DecidableEq, Repr

/-- Takes characters of glob and text one for one. -/
def walk : List Char → List Char → Walk
  | glob, [] => .finished (glob.all (· == '*'))
  | [], _ :: _ => .stuck
  | g :: glob, c :: text =>
    if g = '?' ∨ g = c then walk glob text
    else if g = '*' then .star glob (c :: text)
    else .stuck

/-- The first comparison behind a star that does not get stuck, the star taking characters of
the text from none upwards. -/
def seek (glob : List Char) : List Char → Walk
  | [] => walk glob []
  | c :: text =>
    match walk glob (c :: text) with
    | .stuck => seek glob text
    | outcome => outcome

theorem walk_star_shorter {glob text rest later : List Char}
    (met : walk glob text = .star rest later) : rest.length < glob.length := by
  fun_induction walk glob text with
  | case1 => simp at met
  | case2 => simp at met
  | case3 g glob c text _ ih => exact Nat.lt_succ_of_lt (ih met)
  | case4 => cases met; simp
  | case5 => simp at met

theorem seek_star_shorter {glob text rest later : List Char}
    (met : seek glob text = .star rest later) : rest.length < glob.length := by
  induction text with
  | nil => exact walk_star_shorter met
  | cons c text ih =>
    simp only [seek] at met
    split at met
    · exact ih met
    · exact walk_star_shorter met

/-- Compares the glob behind a star with a text. -/
def matchesBehindStar (glob text : List Char) : Bool :=
  match _met : seek glob text with
  | .finished accepted => accepted
  | .star rest later => matchesBehindStar rest later
  | .stuck => false
termination_by glob.length
decreasing_by exact seek_star_shorter _met

def matchesChars (glob text : List Char) : Bool :=
  match walk glob text with
  | .finished accepted => accepted
  | .star rest later => matchesBehindStar rest later
  | .stuck => false

def isMatch (glob segment : String) : Bool := matchesChars glob.toList segment.toList

end RouteProbe.Glob
