import RouteProbe.Pattern.Glob
import RouteProbe.Proofs.Positions
import RouteProbe.Proofs.Results

/-! # Globs by position

A glob can also be compared with a text by position: one moves through the glob, one through the
text, and when the comparison gets stuck both jump back, to behind the last star and to behind where
the text was when that star last began. Each reading of a character is checked here (`within`), so
that a position past the end would show. None does: both positions stay within their lists
(`Cursor.InRange`), and the comparison comes to what `Glob.isMatch` says (`Glob.compare_eq`).
-/

namespace RouteProbe.Glob

/-! ## The comparison -/

/-- Where a comparison stands. That the last star and what it has taken are not ahead of the
comparison is what makes it end. -/
structure Cursor where
  glob : Nat
  text : Nat
  /-- Where the last star met is in the glob. -/
  star : Option Nat
  /-- How far that star has come in the text. -/
  resume : Nat
  star_lt : ∀ position ∈ star, position < glob
  resume_le : resume ≤ text

/-- What comes of a round of the comparison. -/
inductive Round
  | ended (accepted : Bool)
  | onward (cursor : Cursor)

namespace Cursor

/-- Where a comparison begins. -/
def start : Cursor := ⟨0, 0, none, 0, nofun, Nat.le_refl 0⟩

/-- Behind a character that the glob and the text have taken. -/
def taken (cursor : Cursor) : Cursor where
  glob := cursor.glob + 1
  text := cursor.text + 1
  star := cursor.star
  resume := cursor.resume
  star_lt position met := Nat.lt_succ_of_lt (cursor.star_lt position met)
  resume_le := Nat.le_succ_of_le cursor.resume_le

/-- Behind a star that takes nothing yet. -/
def starred (cursor : Cursor) : Cursor where
  glob := cursor.glob + 1
  text := cursor.text
  star := some cursor.glob
  resume := cursor.text
  star_lt _ met := Option.some.inj met ▸ Nat.lt_succ_self _
  resume_le := Nat.le_refl _

/-- Back behind a star, which takes one character more. -/
def back (cursor : Cursor) (star : Nat) : Cursor where
  glob := star + 1
  text := cursor.resume + 1
  star := some star
  resume := cursor.resume + 1
  star_lt _ met := Option.some.inj met ▸ Nat.lt_succ_self _
  resume_le := Nat.le_refl _

/-- Whether the glob has a next character that passes a test. -/
def passes (glob : List Char) (cursor : Cursor) (test : Char → Except Overrun Bool) :
    Except Overrun Bool :=
  if cursor.glob < glob.length then itemAt glob cursor.glob >>= test else .ok false

/-- Whether the next characters of the glob and the text fit each other. -/
def fits (glob text : List Char) (cursor : Cursor) : Except Overrun Bool :=
  cursor.passes glob fun g =>
    if g = '?' then .ok true else itemAt text cursor.text >>= fun c => .ok (g == c)

/-- One round of the comparison. -/
def round (glob text : List Char) (cursor : Cursor) : Except Overrun Round := do
  if cursor.text < text.length then
    if ← cursor.fits glob text then return .onward cursor.taken
    if ← cursor.passes glob fun g => .ok (g == '*') then return .onward cursor.starred
    match cursor.star with
    | some star => return .onward (cursor.back star)
    | none => return .ended false
  else
    let rest ← itemsFrom glob cursor.glob
    return .ended (rest.all (· == '*'))

/-- How much of the text the last star has not taken and how much of the glob is behind it; without
a star, all of both. -/
def pending (glob text : List Char) (cursor : Cursor) : Nat :=
  (text.length - cursor.resume) + (glob.length - cursor.star.elim 0 (· + 1))

theorem inside_of_passes {glob : List Char} {cursor : Cursor} {test : Char → Except Overrun Bool}
    (passed : cursor.passes glob test = .ok true) : cursor.glob < glob.length := by
  rw [passes] at passed
  split at passed
  next inside => exact inside
  next => cases passed

/-- Either the last star takes more, or a later star is the last one, or the text goes on. -/
theorem round_decreases {glob text : List Char} {cursor next : Cursor}
    (met : cursor.round glob text = .ok (.onward next)) :
    Prod.Lex (· < ·) (· < ·) (next.pending glob text, text.length - next.text)
      (cursor.pending glob text, text.length - cursor.text) := by
  have resume := cursor.resume_le
  unfold round at met
  split at met
  next inside =>
    obtain ⟨fits, _, met⟩ := bind_eq_ok_iff.mp met
    cases fits with
    | true =>
      obtain rfl : cursor.taken = next := by cases met; rfl
      exact .right _ (Nat.sub_lt_sub_left inside (Nat.lt_succ_self _))
    | false =>
      obtain ⟨starred, passed, met⟩ := bind_eq_ok_iff.mp met
      cases starred with
      | true =>
        -- the text goes nowhere, but the new star is further on in the glob than the old one
        obtain rfl : cursor.starred = next := by cases met; rfl
        have room := inside_of_passes passed
        have earlier : cursor.star.elim 0 (· + 1) ≤ cursor.glob := by
          cases last : cursor.star with
          | none => exact Nat.zero_le _
          | some star => exact cursor.star_lt star last
        have less : (text.length - cursor.text) + (glob.length - (cursor.glob + 1)) <
            (text.length - cursor.resume) + (glob.length - cursor.star.elim 0 (· + 1)) := by omega
        exact .left _ _ less
      | false =>
        cases last : cursor.star with
        | none => rw [last] at met; cases met
        | some star =>
          -- both positions jump back, but the star has taken one character more
          rw [last] at met
          obtain rfl : cursor.back star = next := by cases met; rfl
          have less : (text.length - (cursor.resume + 1)) + (glob.length - (star + 1)) <
              (text.length - cursor.resume) + (glob.length - cursor.star.elim 0 (· + 1)) := by
            rw [last, Option.elim]
            omega
          exact .left _ _ less
  next =>
    obtain ⟨_, _, met⟩ := bind_eq_ok_iff.mp met
    cases met

/-- The rounds of a comparison until it ends. -/
def run (glob text : List Char) (cursor : Cursor) : Except Overrun Bool :=
  match _met : cursor.round glob text with
  | .error overrun => .error overrun
  | .ok (.ended accepted) => .ok accepted
  | .ok (.onward next) => next.run glob text
termination_by (cursor.pending glob text, text.length - cursor.text)
decreasing_by exact round_decreases _met

end Cursor

/-- Compares a glob with a text by position. -/
def compare (glob text : String) : Except Overrun Bool := Cursor.start.run glob.toList text.toList

/-! ## What it comes to -/

/-- What a comparison without a star to fall back on comes to, if something else decides when it
gets stuck. -/
def Walk.settle (otherwise : Bool) : Walk → Bool
  | .finished accepted => accepted
  | .star rest later => matchesBehindStar rest later
  | .stuck => otherwise

theorem matchesChars_eq_settle (glob text : List Char) :
    matchesChars glob text = (walk glob text).settle false := by
  rw [matchesChars]
  cases walk glob text <;> rfl

/-- Behind a star a comparison that gets stuck begins again one character later. -/
theorem matchesBehindStar_eq_settle (glob text : List Char) :
    matchesBehindStar glob text = (walk glob text).settle (matchesBehindStar glob text.tail) := by
  rw [matchesBehindStar]
  cases text with
  | nil =>
    rw [seek, walk]
    rfl
  | cons c text =>
    rw [seek, List.tail_cons]
    cases walk glob (c :: text) with
    | finished accepted => rfl
    | star rest later => rfl
    | stuck =>
      dsimp only [Walk.settle]
      rw [matchesBehindStar]

namespace Cursor

/-- What the comparison comes to from a cursor on. -/
def verdict (glob text : List Char) (cursor : Cursor) : Bool :=
  (walk (glob.drop cursor.glob) (text.drop cursor.text)).settle
    (cursor.star.elim false fun star =>
      matchesBehindStar (glob.drop (star + 1)) (text.drop (cursor.resume + 1)))

/-- Whether the positions of a cursor are in a glob and a text, or their ends. -/
structure InRange (glob text : List Char) (cursor : Cursor) : Prop where
  glob_le : cursor.glob ≤ glob.length
  text_le : cursor.text ≤ text.length

end Cursor

/-- Whether a verdict is given by a round, or else from the cursor it leads
to, which is in range. -/
def Round.Gives (glob text : List Char) (verdict : Bool) : Round → Prop
  | .ended accepted => accepted = verdict
  | .onward next => next.InRange glob text ∧ next.verdict glob text = verdict

namespace Cursor

section Rounds

variable {glob text rest later : List Char} {cursor : Cursor} {g c : Char}

theorem passes_of_nil (nothing : glob.drop cursor.glob = []) (test : Char → Except Overrun Bool) :
    cursor.passes glob test = .ok false :=
  if_neg (Nat.not_lt.mpr (List.drop_eq_nil_iff.mp nothing))

theorem passes_of_cons (behind : glob.drop cursor.glob = g :: rest)
    (test : Char → Except Overrun Bool) : cursor.passes glob test = test g := by
  have inside : cursor.glob < glob.length := (next_item behind).1
  rw [passes, if_pos inside, itemAt_of_drop behind]
  rfl

theorem fits_of_cons (behind : glob.drop cursor.glob = g :: rest)
    (textBehind : text.drop cursor.text = c :: later) :
    cursor.fits glob text = .ok (decide (g = '?' ∨ g = c)) := by
  rw [fits, passes_of_cons behind]
  by_cases any : g = '?'
  · simp [any]
  · rw [if_neg any, itemAt_of_drop textBehind, ok_bind]
    simp [any, BEq.beq]

theorem round_of_end (atEnd : text.length ≤ cursor.text) (inside : cursor.glob ≤ glob.length) :
    cursor.round glob text = .ok (.ended ((glob.drop cursor.glob).all (· == '*'))) := by
  rw [round, if_neg (Nat.not_lt.mpr atEnd), itemsFrom_of_le inside]
  rfl

theorem round_of_fits (inside : cursor.text < text.length) (fits : cursor.fits glob text = .ok true) :
    cursor.round glob text = .ok (.onward cursor.taken) := by
  rw [round, if_pos inside, fits]
  rfl

theorem round_of_star (inside : cursor.text < text.length) (unfit : cursor.fits glob text = .ok false)
    (star : cursor.passes glob (fun g => .ok (g == '*')) = .ok true) :
    cursor.round glob text = .ok (.onward cursor.starred) := by
  rw [round, if_pos inside, unfit, star]
  rfl

theorem round_of_stuck (inside : cursor.text < text.length) (unfit : cursor.fits glob text = .ok false)
    (unstarred : cursor.passes glob (fun g => .ok (g == '*')) = .ok false) :
    cursor.round glob text =
      .ok (cursor.star.elim (.ended false) fun star => .onward (cursor.back star)) := by
  rw [round, if_pos inside, unfit, unstarred]
  cases cursor.star <;> rfl

theorem verdict_taken (behind : glob.drop cursor.glob = g :: rest)
    (textBehind : text.drop cursor.text = c :: later) (fit : g = '?' ∨ g = c) :
    cursor.taken.verdict glob text = cursor.verdict glob text := by
  rw [verdict, verdict, behind, textBehind, walk, if_pos fit]
  rw [← (next_item behind).2, ← (next_item textBehind).2]
  rfl

theorem verdict_starred (behind : glob.drop cursor.glob = '*' :: rest)
    (textBehind : text.drop cursor.text = c :: later) (unfit : ¬ ('*' = '?' ∨ '*' = c)) :
    cursor.starred.verdict glob text = cursor.verdict glob text := by
  rw [verdict.eq_def glob text cursor, behind, textBehind, walk, if_neg unfit, if_pos rfl]
  rw [Walk.settle, matchesBehindStar_eq_settle, List.tail_cons, ← textBehind]
  rw [← (next_item behind).2, ← (next_item textBehind).2]
  rfl

theorem verdict_of_stuck (stuck : walk (glob.drop cursor.glob) (text.drop cursor.text) = .stuck) :
    cursor.verdict glob text = cursor.star.elim false fun star =>
      matchesBehindStar (glob.drop (star + 1)) (text.drop (cursor.resume + 1)) := by
  rw [verdict, stuck]
  rfl

/-- A comparison that is stuck goes on in range: the last star is in the glob, and where it was
begun the text has not come to its end. -/
theorem InRange.gives_of_stuck (inRange : cursor.InRange glob text) (inside : cursor.text < text.length)
    (stuck : walk (glob.drop cursor.glob) (text.drop cursor.text) = .stuck) :
    (cursor.star.elim (.ended false) fun star => .onward (cursor.back star) : Round).Gives glob text
      (cursor.verdict glob text) := by
  rw [verdict_of_stuck stuck]
  cases last : cursor.star with
  | none => exact rfl
  | some star =>
    have before := cursor.star_lt star last
    refine ⟨⟨Nat.le_trans before inRange.glob_le, Nat.lt_of_le_of_lt cursor.resume_le inside⟩, ?_⟩
    rw [Option.elim, matchesBehindStar_eq_settle, List.tail_drop]
    rfl

/-- A round from a cursor in range reads nothing out of range, and the verdict stays what it is. -/
theorem InRange.exists_round (inRange : cursor.InRange glob text) :
    ∃ outcome, cursor.round glob text = .ok outcome ∧
      outcome.Gives glob text (cursor.verdict glob text) := by
  cases textBehind : text.drop cursor.text with
  | nil =>
    refine ⟨_, round_of_end (List.drop_eq_nil_iff.mp textBehind) inRange.glob_le, ?_⟩
    rw [verdict, textBehind, walk]
    rfl
  | cons c later =>
    have inside : cursor.text < text.length := (next_item textBehind).1
    cases behind : glob.drop cursor.glob with
    | nil =>
      have unfit := passes_of_nil behind
      have stuck : walk (glob.drop cursor.glob) (text.drop cursor.text) = .stuck := by
        rw [behind, textBehind, walk]
      exact ⟨_, round_of_stuck inside (unfit _) (unfit _), inRange.gives_of_stuck inside stuck⟩
    | cons g rest =>
      have room : cursor.glob < glob.length := (next_item behind).1
      have fits := fits_of_cons behind textBehind
      have star := passes_of_cons behind fun g => .ok (g == '*')
      by_cases fit : g = '?' ∨ g = c
      · rw [decide_eq_true fit] at fits
        exact ⟨_, round_of_fits inside fits, ⟨room, inside⟩, verdict_taken behind textBehind fit⟩
      · rw [decide_eq_false fit] at fits
        by_cases starred : g = '*'
        · subst starred
          exact ⟨_, round_of_star inside fits star, ⟨room, inRange.text_le⟩,
            verdict_starred behind textBehind fit⟩
        · rw [beq_eq_false_iff_ne.mpr starred] at star
          have stuck : walk (glob.drop cursor.glob) (text.drop cursor.text) = .stuck := by
            rw [behind, textBehind, walk, if_neg fit, if_neg starred]
          exact ⟨_, round_of_stuck inside fits star, inRange.gives_of_stuck inside stuck⟩

/-- From a cursor behind the end of the glob even the last round goes wrong. -/
example : (Cursor.mk 3 1 none 0 nofun (Nat.zero_le 1)).round ['a', 'b'] ['c'] = .error ⟨3, 3⟩ := rfl

/-- A whole comparison from a cursor in range reads nothing out of range either, and it comes to the
verdict. -/
theorem InRange.run_eq (inRange : cursor.InRange glob text) :
    cursor.run glob text = .ok (cursor.verdict glob text) := by
  fun_induction cursor.run glob text with
  | case1 cursor overrun met =>
    obtain ⟨outcome, round, _⟩ := inRange.exists_round
    rw [met] at round
    contradiction
  | case2 cursor accepted met =>
    obtain ⟨outcome, round, gives⟩ := inRange.exists_round
    obtain rfl : Round.ended accepted = outcome := Except.ok.inj (met.symm.trans round)
    rw [gives]
  | case3 cursor next met ih =>
    obtain ⟨outcome, round, gives⟩ := inRange.exists_round
    obtain rfl : Round.onward next = outcome := Except.ok.inj (met.symm.trans round)
    rw [ih gives.1, gives.2]

end Rounds

end Cursor

/-- A glob is compared with a text without a position out of range, and rightly. -/
theorem compare_eq (glob text : String) : compare glob text = .ok (isMatch glob text) := by
  have inRange : Cursor.start.InRange glob.toList text.toList := ⟨Nat.zero_le _, Nat.zero_le _⟩
  rw [compare, inRange.run_eq, isMatch, matchesChars_eq_settle]
  rfl

end RouteProbe.Glob
