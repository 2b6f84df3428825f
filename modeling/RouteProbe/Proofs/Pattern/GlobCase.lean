import RouteProbe.Proofs.Pattern.GlobReadings
import RouteProbe.Proofs.Text.LetterCase
import RouteProbe.Proofs.Text.Pieces

/-! # Globs in lower case

A glob that accepts a segment ought to do so as well when both are in lower case. Two things can go
wrong. The small form of a capital sigma depends on its neighbours, and in the glob these may be
wildcards (`Glob.SigmaOpen`); and a capital I with a dot becomes two characters, of which a question
mark takes only one. Main statement: where question marks take no such letter, the glob relaxes
exactly if its sigmas are settled (`Glob.relaxesOn_iff_settled`).
-/

namespace RouteProbe.Glob

open Text

/-- Whether a segment that a glob accepts is accepted in lower case, too. -/
def RelaxesOn (glob segment : String) : Prop :=
  isMatch glob segment = true → isMatch (lowercase glob) (lowercase segment) = true

/-- Whether a wildcard is the first character that counts for casing. -/
def MeetsWildcard (glob : List Char) : Prop := sighted? glob = some '*' ∨ sighted? glob = some '?'

/-- Whether the form of a capital sigma depends on what the wildcards take that stand before it, in
reverse, or after it. -/
def SigmaOpen (before after : List Char) : Prop :=
  MeetsWildcard before ∧ meetsCased after = false ∨ meetsCased before = true ∧ MeetsWildcard after

/-- Whether no capital sigma of a glob is open, given the characters before the glob in reverse. -/
def SigmasSettled (before glob : List Char) : Prop :=
  ∀ start rest, glob = start ++ 'Σ' :: rest → ¬ SigmaOpen (start.reverse ++ before) rest

/-- Whether question marks are spared the letter that becomes two: all of those in the text are
taken by those in the glob. -/
def MarksSpared (glob text : List Char) : Prop := '?' ∈ glob → text.count 'İ' ≤ glob.count 'İ'

/-- Whether a text looks as a glob does for casing, unless a wildcard hides what there is. -/
def SightsAgree (glob text : List Char) : Prop :=
  MeetsWildcard glob ∨ meetsCased glob = meetsCased text

section Sights

variable {glob text before after textBefore textAfter : List Char}

theorem meetsCased_of_meetsWildcard (meets : MeetsWildcard glob) : meetsCased glob = false := by
  rw [meetsCased_eq]
  rcases meets with star | mark
  · rw [star]
    decide +kernel
  · rw [mark]
    decide +kernel

theorem SightsAgree.cons (agree : SightsAgree glob text) (c : Char) :
    SightsAgree (c :: glob) (c :: text) := by
  unfold SightsAgree MeetsWildcard at *
  simp only [meetsCased_eq, sighted?_cons] at *
  split
  · exact agree
  · exact .inr rfl

theorem sightsAgree_of_wildcard {wildcard : Char} (wild : wildcard = '*' ∨ wildcard = '?')
    (glob text : List Char) : SightsAgree (wildcard :: glob) text := by
  left
  unfold MeetsWildcard
  rw [sighted?_cons]
  rcases wild with rfl | rfl
  · exact .inl (if_neg (by decide +kernel))
  · exact .inr (if_neg (by decide +kernel))

/-- A text looks like the glob that reads it. -/
theorem Reads.sightsAgree (reads : Reads glob text) : SightsAgree glob text := by
  induction reads with
  | done => exact .inr rfl
  | one fits _ ih =>
    rcases fits with rfl | rfl
    · exact sightsAgree_of_wildcard (.inr rfl) _ _
    · exact ih.cons _
  | run => exact sightsAgree_of_wildcard (.inl rfl) _ _

theorem smallSigma_eq (settled : ¬ SigmaOpen before after) (agreeBefore : SightsAgree before textBefore)
    (agreeAfter : SightsAgree after textAfter) :
    smallSigma before after = smallSigma textBefore textAfter := by
  obtain ⟨leftOpen, rightOpen⟩ := not_or.mp settled
  unfold smallSigma
  rcases agreeBefore with wild | sameBefore
  · have cased : meetsCased after = true :=
      Bool.not_eq_false _ ▸ fun uncased => leftOpen ⟨wild, uncased⟩
    rcases agreeAfter with wildAfter | sameAfter
    · rw [meetsCased_of_meetsWildcard wildAfter] at cased
      contradiction
    · rw [← sameAfter, cased, Bool.not_true, Bool.and_false, Bool.and_false]
  · rcases agreeAfter with wildAfter | sameAfter
    · have uncased : meetsCased before = false :=
        Bool.not_eq_true _ ▸ fun cased => rightOpen ⟨cased, wildAfter⟩
      rw [← sameBefore, uncased, Bool.false_and, Bool.false_and]
    · rw [sameBefore, sameAfter]

end Sights

section Lowering

variable {glob text before textBefore : List Char}

/-- What glob and text begin with alike is taken one for one. -/
theorem Reads.append_left (start : List Char) (reads : Reads glob text) :
    Reads (start ++ glob) (start ++ text) := by
  induction start with
  | nil => exact reads
  | cons c start ih => exact .one (.inr rfl) ih

/-- Every character of a glob that is no wildcard takes itself, so that the text has as many of
them. -/
theorem Reads.count_le {c : Char} (reads : Reads glob text) (tame : c ≠ '*' ∧ c ≠ '?') :
    glob.count c ≤ text.count c := by
  induction reads with
  | done => exact Nat.le_refl _
  | one fits _ ih =>
    rcases fits with rfl | rfl
    · rw [List.count_cons_of_ne tame.2.symm]
      exact Nat.le_trans ih (List.count_le_count_cons ..)
    · rw [List.count_cons, List.count_cons]
      exact Nat.add_le_add_right ih _
  | run _ behind _ ih =>
    rw [List.count_cons_of_ne tame.1.symm]
    exact Nat.le_trans ih (behind.sublist.count_le c)

theorem SigmasSettled.tail {c : Char} (settled : SigmasSettled before (c :: glob)) :
    SigmasSettled (c :: before) glob := by
  rintro start rest rfl
  have shifted := settled (c :: start) rest rfl
  rwa [List.reverse_cons, List.append_assoc] at shifted

/-- What a glob reads it reads in lower case, too, if its sigmas are settled and its question marks
are spared the letter that becomes two. -/
theorem Reads.lowerAfter (reads : Reads glob text) (agree : SightsAgree before textBefore)
    (settled : SigmasSettled before glob) (spared : MarksSpared glob text) :
    Reads (Text.lowerAfter before glob) (Text.lowerAfter textBefore text) := by
  induction reads generalizing before textBefore with
  | done => exact .done
  | @one g c glob text fits later ih =>
    have dotted := later.count_le (c := 'İ') (by decide)
    rcases fits with rfl | rfl
    · have counted : (c :: text).count 'İ' ≤ ('?' :: glob).count 'İ' := spared List.mem_cons_self
      rw [List.count_cons_of_ne (show '?' ≠ 'İ' by decide)] at counted
      have undotted : c ≠ 'İ' := by
        rintro rfl
        rw [List.count_cons_self] at counted
        omega
      rw [List.count_cons_of_ne undotted] at counted
      obtain ⟨small, lowered⟩ := exists_lowerAfter_cons undotted textBefore text
      rw [lowered, lowerAfter_of_ne (by decide), lowerChar_sign (by decide)]
      have agreeLater := sightsAgree_of_wildcard (.inr rfl) before (c :: textBefore)
      exact .one (.inl rfl) (ih agreeLater settled.tail fun _ => counted)
    · have sparedLater : MarksSpared glob text := by
        intro marked
        have counted := spared (List.mem_cons_of_mem g marked)
        rw [List.count_cons, List.count_cons] at counted
        omega
      have read := ih (agree.cons g) settled.tail sparedLater
      by_cases sigma : g = 'Σ'
      · subst sigma
        have same := smallSigma_eq (settled [] glob rfl) agree later.sightsAgree
        rw [lowerAfter_sigma, lowerAfter_sigma, ← same]
        exact .one (.inr rfl) read
      · rw [lowerAfter_of_ne sigma, lowerAfter_of_ne sigma]
        exact read.append_left _
  | @run glob text rest unstarred behind _ ih =>
    obtain ⟨piece, rfl⟩ := behind
    rw [lowerAfter_of_ne (by decide), lowerChar_sign (by decide)]
    refine .run (head?_lowerAfter_ne (by decide) (by decide) _ unstarred)
      (lowerAfter_suffix textBefore piece rest)
      (ih (sightsAgree_of_wildcard (.inl rfl) _ _) settled.tail ?_)
    intro marked
    have counted := spared (List.mem_cons_of_mem _ marked)
    rw [List.count_cons_of_ne (by decide), List.count_append] at counted
    omega

end Lowering

/-- A glob whose sigmas are settled relaxes on every segment on which its
question marks are spared. -/
theorem relaxesOn_of_settled {glob segment : String} (settled : SigmasSettled [] glob.toList)
    (spared : MarksSpared glob.toList segment.toList) : RelaxesOn glob segment := by
  intro accepted
  rw [isMatch_iff_reads] at accepted ⊢
  rw [lowercase, lowercase, String.toList_ofList, String.toList_ofList]
  exact accepted.lowerAfter (.inr rfl) settled spared

section Filling

/-- A glob with a certain character in the place of each wildcard. -/
def fill (mark : Char) (glob : List Char) : List Char :=
  glob.map fun c => if c = '*' ∨ c = '?' then mark else c

variable {mark : Char} {glob text start rest before after : List Char}

theorem fill_cons_of_wildcard {c : Char} (wild : c = '*' ∨ c = '?') :
    fill mark (c :: glob) = mark :: fill mark glob := by
  rw [fill, List.map_cons, if_pos wild, fill]

theorem fill_cons_of_ne {c : Char} (tame : ¬ (c = '*' ∨ c = '?')) :
    fill mark (c :: glob) = c :: fill mark glob := by
  rw [fill, List.map_cons, if_neg tame, fill]

/-- A glob takes what it is filled to one for one. -/
theorem Reads.append_fill (plain : mark ≠ '*') (start : List Char) (reads : Reads glob text) :
    Reads (start ++ glob) (fill mark start ++ text) := by
  induction start with
  | nil => exact reads
  | cons c start ih =>
    by_cases wild : c = '*' ∨ c = '?'
    · rw [fill_cons_of_wildcard wild]
      rcases wild with rfl | rfl
      · exact .run (fun opens => plain (Option.some.inj opens)) (List.suffix_cons _ _) ih
      · exact .one (.inl rfl) ih
    · rw [fill_cons_of_ne wild]
      exact .one (.inr rfl) ih

theorem sighted?_fill (counts : inRanges caseIgnorableRanges mark.toNat = false)
    (glob : List Char) :
    sighted? (fill mark glob) =
      (sighted? glob).map fun c => if c = '*' ∨ c = '?' then mark else c := by
  induction glob with
  | nil => rfl
  | cons c glob ih =>
    rw [sighted?_cons]
    by_cases wild : c = '*' ∨ c = '?'
    · have shown : inRanges caseIgnorableRanges c.toNat = false := by
        rcases wild with rfl | rfl <;> decide +kernel
      rw [fill_cons_of_wildcard wild, sighted?_cons, shown, counts]
      simp only [Bool.false_eq_true, if_false, Option.map_some, if_pos wild]
    · rw [fill_cons_of_ne wild, sighted?_cons, ih]
      split
      · rfl
      · simp only [Option.map_some, if_neg wild]

/-- A letter in the place of a wildcard is cased. -/
theorem meetsCased_fill_of_wildcard (meets : MeetsWildcard glob) :
    meetsCased (fill 'a' glob) = true := by
  rw [meetsCased_eq, sighted?_fill (by decide +kernel)]
  rcases meets with star | mark
  · rw [star]
    decide +kernel
  · rw [mark]
    decide +kernel

/-- A hyphen in the place of a wildcard is not. -/
theorem meetsCased_fill_of_uncased (uncased : meetsCased glob = false) :
    meetsCased (fill '-' glob) = false := by
  rw [meetsCased_eq] at uncased ⊢
  rw [sighted?_fill (by decide +kernel)]
  cases found : sighted? glob with
  | none => rfl
  | some c =>
    rw [found] at uncased
    by_cases wild : c = '*' ∨ c = '?'
    · rw [Option.map_some, if_pos wild]
      decide +kernel
    · rwa [Option.map_some, if_neg wild]

/-- Where a sigma is open, the wildcards can be filled so that it takes the other form. -/
theorem exists_smallSigma_fill_ne (opened : SigmaOpen before after) :
    ∃ mark, (mark = 'a' ∨ mark = '-') ∧
      smallSigma before after ≠ smallSigma (fill 'a' before) (fill mark after) := by
  unfold smallSigma
  rcases opened with ⟨wild, uncased⟩ | ⟨cased, wild⟩
  · refine ⟨'-', .inr rfl, ?_⟩
    rw [meetsCased_of_meetsWildcard wild, meetsCased_fill_of_wildcard wild,
      meetsCased_fill_of_uncased uncased, Bool.false_and]
    decide
  · refine ⟨'a', .inl rfl, ?_⟩
    rw [cased, meetsCased_of_meetsWildcard wild, meetsCased_fill_of_wildcard wild, Bool.not_true,
      Bool.and_false]
    decide

/-- A glob has as many small sigmas in lower case as what it is filled to. -/
theorem sigmaCount_fill (uncounted : sigmaCount [mark] = 0) (glob : List Char) :
    sigmaCount (fill mark glob) = sigmaCount glob := by
  induction glob with
  | nil => rfl
  | cons c glob ih =>
    by_cases wild : c = '*' ∨ c = '?'
    · have none : sigmaCount [c] = 0 := by rcases wild with rfl | rfl <;> decide +kernel
      rw [fill_cons_of_wildcard wild, sigmaCount_cons mark, sigmaCount_cons c glob, ih, uncounted,
        none]
    · rw [fill_cons_of_ne wild, sigmaCount_cons c (fill mark glob), sigmaCount_cons c glob, ih]

/-- The small sigmas of a glob are found in what it reads, in their order. -/
theorem Reads.smallSigmas_sublist (reads : Reads glob text) :
    (smallSigmas glob).Sublist (smallSigmas text) := by
  induction reads with
  | done => exact List.Sublist.refl _
  | @one g c glob text fits _ ih =>
    rcases fits with rfl | rfl
    · rw [smallSigmas_cons_of_ne (by decide)]
      exact ih.trans ((List.sublist_cons_self c text).filter _)
    · rw [smallSigmas, smallSigmas, List.filter_cons, List.filter_cons]
      split
      · exact ih.cons_cons g
      · exact ih
  | run _ behind _ ih =>
    rw [smallSigmas_cons_of_ne (by decide)]
    exact ih.trans (behind.sublist.filter _)

/-- A glob with an open sigma reads what it is filled to, but not in lower case. -/
theorem exists_not_reads_of_open (opened : SigmaOpen start.reverse rest) :
    ∃ mark, (mark = 'a' ∨ mark = '-') ∧
      ¬ Reads (Text.lowerAfter [] (start ++ 'Σ' :: rest))
        (Text.lowerAfter [] (fill 'a' start ++ 'Σ' :: fill mark rest)) := by
  obtain ⟨mark, known, different⟩ := exists_smallSigma_fill_ne opened
  refine ⟨mark, known, fun reads => ?_⟩
  have uncounted : sigmaCount [mark] = 0 := by rcases known with rfl | rfl <;> decide +kernel
  obtain ⟨globStart, globDivided, globCounted⟩ := exists_lowerAfter_append [] start ('Σ' :: rest)
  obtain ⟨textStart, textDivided, textCounted⟩ :=
    exists_lowerAfter_append [] (fill 'a' start) ('Σ' :: fill mark rest)
  rw [sigmaCount_fill (by decide +kernel)] at textCounted
  -- Both have as many small sigmas, in all and before the open one, so that each reads its like.
  have sublist := reads.smallSigmas_sublist
  rw [globDivided, textDivided, lowerAfter_sigma, lowerAfter_sigma, smallSigmas_append,
    smallSigmas_append, smallSigmas_cons_of_small (smallSigma_cases ..),
    smallSigmas_cons_of_small (smallSigma_cases ..)] at sublist
  have lengths := globCounted.trans textCounted.symm
  have same := sublist.eq_of_length (by
    rw [List.length_append, List.length_append, List.length_cons, List.length_cons, lengths,
      length_smallSigmas_lowerAfter, length_smallSigmas_lowerAfter, sigmaCount_fill uncounted])
  have alike := (List.cons.inj (List.append_inj same lengths).2).1
  rw [List.append_nil, List.append_nil, fill, ← List.map_reverse] at alike
  exact different alike

theorem eq_or_mem_of_mem_fill {c : Char} (member : c ∈ fill mark glob) : c = mark ∨ c ∈ glob := by
  obtain ⟨own, inside, rfl⟩ := List.mem_map.mp member
  split
  · exact .inl rfl
  · exact .inr inside

theorem count_fill_le {c : Char} (different : mark ≠ c) (glob : List Char) :
    (fill mark glob).count c ≤ glob.count c := by
  induction glob with
  | nil => exact Nat.le_refl _
  | cons g glob ih =>
    by_cases wild : g = '*' ∨ g = '?'
    · rw [fill_cons_of_wildcard wild, List.count_cons_of_ne different]
      exact Nat.le_trans ih (List.count_le_count_cons ..)
    · rw [fill_cons_of_ne wild, List.count_cons, List.count_cons]
      exact Nat.add_le_add_right ih _

end Filling

/-- A glob relaxes on all segments on which its question marks are spared if and only if its sigmas
are settled. -/
theorem relaxesOn_iff_settled {glob : String} (single : IsSegment glob) :
    (∀ segment : String, IsSegment segment → MarksSpared glob.toList segment.toList →
      RelaxesOn glob segment) ↔ SigmasSettled [] glob.toList := by
  refine ⟨?_, fun settled segment _ spared => relaxesOn_of_settled settled spared⟩
  intro relaxes start rest divided opened
  rw [List.append_nil] at opened
  obtain ⟨mark, known, unread⟩ := exists_not_reads_of_open opened
  have plain : mark ≠ '*' ∧ mark ≠ '/' ∧ mark ≠ 'İ' := by rcases known with rfl | rfl <;> decide
  obtain ⟨segment, filled⟩ :
      ∃ segment : String, segment.toList = fill 'a' start ++ 'Σ' :: fill mark rest :=
    ⟨_, String.toList_ofList⟩
  have reads : Reads glob.toList segment.toList := by
    have readsRest := Reads.done.append_fill plain.1 rest
    rw [List.append_nil, List.append_nil] at readsRest
    rw [divided, filled]
    exact Reads.append_fill (by decide) start (.one (.inr rfl) readsRest)
  have isSegment : IsSegment segment := by
    refine ⟨fun empty => ?_, fun slashed => ?_⟩
    · rw [empty] at filled
      simp at filled
    · have free := single.2
      rw [divided, List.mem_append, List.mem_cons, not_or, not_or] at free
      rw [filled, List.mem_append, List.mem_cons] at slashed
      rcases slashed with inStart | same | inRest
      · exact (eq_or_mem_of_mem_fill inStart).elim (by decide) free.1
      · exact free.2.1 same
      · exact (eq_or_mem_of_mem_fill inRest).elim plain.2.1.symm free.2.2
  have spared : MarksSpared glob.toList segment.toList := by
    intro _
    have before : (fill 'a' start).count 'İ' ≤ start.count 'İ' := count_fill_le (by decide) start
    have after := count_fill_le plain.2.2 rest
    rw [filled, divided, List.count_append, List.count_append, List.count_cons, List.count_cons]
    omega
  have accepted := relaxes segment isSegment spared ((isMatch_iff_reads glob segment).mpr reads)
  rw [isMatch_iff_reads, lowercase, lowercase, String.toList_ofList, String.toList_ofList, filled,
    divided] at accepted
  exact unread accepted

end RouteProbe.Glob
