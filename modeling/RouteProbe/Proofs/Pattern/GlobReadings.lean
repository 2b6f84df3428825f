import Mathlib.Data.List.Forall2
import RouteProbe.Pattern.Glob

/-! # What globs take

A glob ought to accept the texts that can be cut into pieces, one for each of its characters
(`Glob.Covers`). What is accepted is less (`Glob.Reads`): a star that meets a star of the text takes
that one character and nothing else. Going back to the last star alone, as the comparison does,
loses nothing more, since the first comparison that does not get stuck is as good as any later one
(`Glob.succeeds_of_reads`). Main statements: `Glob.isMatch_iff_reads` and `Glob.judgesRightly_iff`.
-/

namespace RouteProbe.Glob

/-- What a character of a glob may take of a text. -/
inductive Takes : Char → List Char → Prop
  | any (c : Char) : Takes '?' [c]
  | run (piece : List Char) : Takes '*' piece
  | itself (c : Char) : Takes c [c]

/-- Whether a text can be cut into consecutive pieces, one for each character of a glob. -/
def Covers (glob text : List Char) : Prop :=
  ∃ pieces, List.Forall₂ Takes glob pieces ∧ pieces.flatten = text

/-- How a glob is read: as it should be, but a star never takes more of a text that begins with a
star than that star. -/
inductive Reads : List Char → List Char → Prop
  | done : Reads [] []
  | one {g c : Char} {glob text : List Char} (fits : g = '?' ∨ g = c) (later : Reads glob text) :
      Reads (g :: glob) (c :: text)
  | run {glob text rest : List Char} (unstarred : text.head? ≠ some '*') (behind : rest <:+ text)
      (later : Reads glob rest) : Reads ('*' :: glob) text

/-- Whether a glob that has a star in front of it can be read. -/
def ReadsBehindStar (glob text : List Char) : Prop := ∃ rest, rest <:+ text ∧ Reads glob rest

/-- Whether a comparison has ended well, or can go on behind the star that it has met. -/
def Walk.Succeeds : Walk → Prop
  | .finished accepted => accepted = true
  | .star glob text => ReadsBehindStar glob text
  | .stuck => False

section Readings

variable {glob text rest : List Char}

theorem reads_nil_iff : Reads glob [] ↔ glob.all (· == '*') = true := by
  induction glob with
  | nil => exact ⟨fun _ => rfl, fun _ => .done⟩
  | cons g glob ih =>
    rw [List.all_cons, Bool.and_eq_true, beq_iff_eq, ← ih]
    constructor
    · intro reads
      cases reads with
      | run _ behind later => exact ⟨rfl, List.suffix_nil.mp behind ▸ later⟩
    · rintro ⟨rfl, later⟩
      exact .run (by simp) List.nil_suffix later

/-- A comparison that gets stuck has shown that the glob does not read the text. -/
theorem not_reads_of_stuck (stuck : walk glob text = .stuck) : ¬ Reads glob text := by
  fun_induction walk glob text with
  | case1 => contradiction
  | case2 => rintro ⟨⟩
  | case3 g glob c text fits ih =>
    intro reads
    cases reads with
    | one _ later => exact ih stuck later
    | run unstarred =>
      rcases fits with impossible | rfl
      · exact absurd impossible (by decide)
      · exact unstarred rfl
  | case4 => contradiction
  | case5 g glob c text unfit unstarred =>
    intro reads
    cases reads with
    | one fits _ => exact unfit fits
    | run => exact unstarred rfl

/-- A comparison that does not get stuck succeeds if the glob reads the text or only the end of
it: up to the star that is met, whoever starts later leaves no more of the text to the rest of
the glob. -/
theorem succeeds_of_reads (unstuck : walk glob text ≠ .stuck) (behind : rest <:+ text)
    (reads : Reads glob rest) : (walk glob text).Succeeds := by
  fun_induction walk glob text generalizing rest with
  | case1 glob =>
    obtain rfl := List.suffix_nil.mp behind
    exact reads_nil_iff.mp reads
  | case2 => contradiction
  | case3 g glob c text fits ih =>
    cases reads with
    | one _ later =>
      rcases List.suffix_cons_iff.mp behind with same | shorter
      · obtain ⟨rfl, rfl⟩ := List.cons.inj same
        exact ih unstuck List.suffix_rfl later
      · exact ih unstuck ((List.suffix_cons _ _).trans shorter) later
    | @run _ _ tail unstarred taken later =>
      rcases List.suffix_cons_iff.mp behind with rfl | shorter
      · rcases fits with impossible | rfl
        · exact absurd impossible (by decide)
        · exact absurd rfl unstarred
      · exact ih unstuck (taken.trans shorter) later
  | case4 glob c text =>
    cases reads with
    | @one _ _ _ tail _ later => exact ⟨tail, (List.suffix_cons _ _).trans behind, later⟩
    | @run _ _ tail _ taken later => exact ⟨tail, taken.trans behind, later⟩
  | case5 => contradiction

theorem reads_of_succeeds (succeeds : (walk glob text).Succeeds) : Reads glob text := by
  fun_induction walk glob text with
  | case1 glob => exact reads_nil_iff.mpr succeeds
  | case2 => contradiction
  | case3 g glob c text fits ih => exact .one fits (ih succeeds)
  | case4 glob c text unfit =>
    obtain ⟨tail, taken, later⟩ := succeeds
    refine .run ?_ taken later
    rintro same
    exact unfit (.inr (Option.some.inj same).symm)
  | case5 => contradiction

theorem reads_iff_succeeds : Reads glob text ↔ (walk glob text).Succeeds := by
  refine ⟨fun reads => ?_, reads_of_succeeds⟩
  by_cases stuck : walk glob text = .stuck
  · exact absurd reads (not_reads_of_stuck stuck)
  · exact succeeds_of_reads stuck List.suffix_rfl reads

/-- Behind a star the first comparison that does not get stuck decides. -/
theorem readsBehindStar_iff_succeeds : ReadsBehindStar glob text ↔ (seek glob text).Succeeds := by
  induction text with
  | nil =>
    rw [seek, ← reads_iff_succeeds]
    constructor
    · rintro ⟨rest, behind, reads⟩
      exact List.suffix_nil.mp behind ▸ reads
    · exact fun reads => ⟨[], List.suffix_rfl, reads⟩
  | cons c text ih =>
    rw [seek]
    split
    next stuck =>
      rw [← ih]
      constructor
      · rintro ⟨rest, behind, reads⟩
        rcases List.suffix_cons_iff.mp behind with rfl | shorter
        · exact absurd reads (not_reads_of_stuck stuck)
        · exact ⟨rest, shorter, reads⟩
      · rintro ⟨rest, behind, reads⟩
        exact ⟨rest, behind.trans (List.suffix_cons c text), reads⟩
    next unstuck =>
      constructor
      · rintro ⟨rest, behind, reads⟩
        exact succeeds_of_reads unstuck behind reads
      · exact fun succeeds => ⟨c :: text, List.suffix_rfl, reads_of_succeeds succeeds⟩

theorem matchesBehindStar_iff : matchesBehindStar glob text = true ↔ ReadsBehindStar glob text := by
  rw [readsBehindStar_iff_succeeds]
  fun_induction matchesBehindStar glob text with
  | case1 glob text accepted met => rw [met, Walk.Succeeds]
  | case2 glob text rest later met ih => rw [met, Walk.Succeeds, ih, readsBehindStar_iff_succeeds]
  | case3 glob text met => rw [met, Walk.Succeeds, Bool.false_eq_true]

theorem matchesChars_iff : matchesChars glob text = true ↔ Reads glob text := by
  rw [reads_iff_succeeds, matchesChars]
  cases walk glob text with
  | finished accepted => rfl
  | star rest later => exact matchesBehindStar_iff
  | stuck => exact Bool.false_eq_true ▸ Iff.rfl

theorem isMatch_iff_reads (glob segment : String) :
    isMatch glob segment = true ↔ Reads glob.toList segment.toList := matchesChars_iff

end Readings

section Meaning

variable {glob text rest : List Char}

theorem covers_cons {g : Char} {piece : List Char} (takes : Takes g piece) (later : Covers glob rest) :
    Covers (g :: glob) (piece ++ rest) := by
  obtain ⟨pieces, taken, rfl⟩ := later
  exact ⟨piece :: pieces, .cons takes taken, rfl⟩

theorem covers_self (glob : List Char) : Covers glob glob := by
  induction glob with
  | nil => exact ⟨[], .nil, rfl⟩
  | cons g glob ih => exact covers_cons (.itself g) ih

theorem covers_questionMarks (text : List Char) : Covers (List.replicate text.length '?') text := by
  induction text with
  | nil => exact covers_self []
  | cons c text ih => exact covers_cons (.any c) ih

theorem covers_append {start begun : List Char} (first : Covers start begun) (later : Covers glob rest) :
    Covers (start ++ glob) (begun ++ rest) := by
  obtain ⟨pieces, taken, rfl⟩ := first
  obtain ⟨morePieces, moreTaken, rfl⟩ := later
  exact ⟨pieces ++ morePieces, List.rel_append taken moreTaken, List.flatten_append⟩

/-- What a glob reads it ought to accept. -/
theorem Reads.covers (reads : Reads glob text) : Covers glob text := by
  induction reads with
  | done => exact covers_self []
  | @one g c glob text fits _ ih =>
    rcases fits with rfl | rfl
    · exact covers_cons (.any c) ih
    · exact covers_cons (.itself g) ih
  | run _ behind _ ih =>
    obtain ⟨piece, rfl⟩ := behind
    exact covers_cons (.run piece) ih

/-- Where no star can meet another one, nothing is missed. -/
theorem Covers.reads (covers : Covers glob text) (starless : '*' ∉ glob ∨ '*' ∉ text) :
    Reads glob text := by
  obtain ⟨pieces, taken, rfl⟩ := covers
  induction taken with
  | nil => exact .done
  | @cons g piece glob pieces takes _ ih =>
    have later : Reads glob pieces.flatten := by
      refine ih (starless.imp (mt (List.mem_cons_of_mem g)) fun free inside => free ?_)
      exact List.mem_append_right piece inside
    cases takes with
    | any c => exact .one (.inl rfl) later
    | itself => exact .one (.inr rfl) later
    | run =>
      refine .run ?_ (List.suffix_append piece _) later
      intro opens
      exact (starless.resolve_left (not_not_intro List.mem_cons_self)) (List.mem_of_head? opens)

end Meaning

section Misses

theorem walk_append_append (start glob text : List Char) :
    walk (start ++ glob) (start ++ text) = walk glob text := by
  induction start with
  | nil => rfl
  | cons c start ih => rw [List.cons_append, List.cons_append, walk, if_pos (.inr rfl), ih]

theorem walk_of_shorter {glob text : List Char} (starless : '*' ∉ glob)
    (shorter : glob.length < text.length) : walk glob text = .stuck := by
  fun_induction walk glob text with
  | case1 => contradiction
  | case2 => rfl
  | case3 g glob c text _ ih =>
    exact ih (mt (List.mem_cons_of_mem g) starless) (Nat.lt_of_succ_lt_succ shorter)
  | case4 => exact absurd List.mem_cons_self starless
  | case5 => rfl

theorem walk_questionMarks (text : List Char) :
    walk (List.replicate (text.length + 1) '?') text = .finished false := by
  induction text with
  | nil => rfl
  | cons c text ih => rw [List.length_cons, List.replicate_succ, walk, if_pos (.inl rfl), ih]

/-- A glob with a star misses some text that has a star and one more character in the same place. -/
theorem exists_missed_text {glob : List Char} (starred : '*' ∈ glob) :
    ∃ text, Covers glob text ∧ ¬ Reads glob text := by
  -- The last star is the one to go by, since behind it the lengths are bound to differ.
  obtain ⟨tail, front, reversed, starless⟩ := List.eq_append_cons_of_mem (List.mem_reverse.mpr starred)
  obtain rfl : glob = front.reverse ++ '*' :: tail.reverse := by
    rw [← List.reverse_reverse glob, reversed]
    simp
  refine ⟨front.reverse ++ ('*' :: 'a' :: tail.reverse), ?_, ?_⟩
  · exact covers_append (covers_self _) (covers_cons (.run ['*', 'a']) (covers_self _))
  · have stuck : walk tail.reverse ('a' :: tail.reverse) = .stuck :=
      walk_of_shorter (mt List.mem_reverse.mp starless) (Nat.lt_succ_self _)
    rw [reads_iff_succeeds, walk_append_append, walk, if_pos (.inr rfl), stuck]
    exact id

/-- A text with a star is missed by some glob that has it, too, and asks for one more character. -/
theorem exists_missing_glob {text : List Char} (starred : '*' ∈ text) :
    ∃ glob, Covers glob text ∧ ¬ Reads glob text := by
  obtain ⟨start, rest, rfl⟩ := List.append_of_mem starred
  refine ⟨start ++ ('*' :: List.replicate (rest.length + 1) '?'), ?_, ?_⟩
  · have covers : Covers (List.replicate (rest.length + 1) '?') ('*' :: rest) :=
      covers_questionMarks ('*' :: rest)
    exact covers_append (covers_self start) (covers_cons (.run []) covers)
  · rw [reads_iff_succeeds, walk_append_append, walk, if_pos (.inr rfl), walk_questionMarks]
    exact Bool.false_ne_true

end Misses

/-- Whether a glob accepts a text just if it ought to. -/
def JudgesRightly (glob text : String) : Prop :=
  isMatch glob text = true ↔ Covers glob.toList text.toList

theorem judgesRightly_iff_reads {glob text : String} :
    JudgesRightly glob text ↔ (Covers glob.toList text.toList → Reads glob.toList text.toList) := by
  rw [JudgesRightly, isMatch_iff_reads]
  exact ⟨Iff.mpr, fun finds => ⟨Reads.covers, finds⟩⟩

/-- A glob accepts exactly the texts that it reads, all of which it ought to accept. It judges all
texts rightly if and only if it has no star, and a text is judged rightly by all globs if and only
if the text has no star. -/
theorem judgesRightly_iff (glob text : String) :
    (isMatch glob text = true ↔ Reads glob.toList text.toList) ∧
    (isMatch glob text = true → Covers glob.toList text.toList) ∧
    ((∀ other, JudgesRightly glob other) ↔ '*' ∉ glob.toList) ∧
    ((∀ other, JudgesRightly other text) ↔ '*' ∉ text.toList) := by
  refine ⟨isMatch_iff_reads glob text, ?_, ?_, ?_⟩
  · exact fun accepted => ((isMatch_iff_reads glob text).mp accepted).covers
  · simp only [judgesRightly_iff_reads]
    constructor
    · intro right starred
      obtain ⟨text, covers, missed⟩ := exists_missed_text starred
      have found := right (String.ofList text)
      rw [String.toList_ofList] at found
      exact missed (found covers)
    · exact fun starless other covers => covers.reads (.inl starless)
  · simp only [judgesRightly_iff_reads]
    constructor
    · intro right starred
      obtain ⟨glob, covers, missed⟩ := exists_missing_glob starred
      have found := right (String.ofList glob)
      rw [String.toList_ofList] at found
      exact missed (found covers)
    · exact fun starless other covers => covers.reads (.inr starless)

/-- A single star ought to accept every text, but not one of two characters that begins with
a star. -/
theorem judgesRightly_not_starred : ¬ JudgesRightly "*" "*a" := by
  intro right
  have accepted := right.mpr (covers_cons (.run ['*', 'a']) (covers_self []))
  contradiction

end RouteProbe.Glob
