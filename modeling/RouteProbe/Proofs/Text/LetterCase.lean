import RouteProbe.Text.Casing

/-! # Lowercasing character by character

Lowercasing goes from the left. Of the characters before it, the rest of a text depends only on the
first one that counts for casing (`Text.meetsCased_eq`), and only through a capital sigma. Every
other character becomes one character, except a capital I with a dot, which becomes two.
-/

namespace RouteProbe.Text

/-- The first character of a text that counts for casing. -/
def sighted? (text : List Char) : Option Char :=
  (text.dropWhile fun c => inRanges caseIgnorableRanges c.toNat).head?

theorem meetsCased_eq (text : List Char) :
    meetsCased text = (sighted? text).any fun c => inRanges casedRanges c.toNat := by
  unfold meetsCased sighted?
  cases text.dropWhile fun c => inRanges caseIgnorableRanges c.toNat <;> rfl

theorem sighted?_cons (c : Char) (text : List Char) :
    sighted? (c :: text) =
      if inRanges caseIgnorableRanges c.toNat then sighted? text else some c := by
  rw [sighted?, List.dropWhile_cons]
  split <;> rfl

/-- The small form of a capital sigma that has these texts before it, in reverse, and after it. -/
def smallSigma (before after : List Char) : Char :=
  if meetsCased before && !meetsCased after then 'ς' else 'σ'

theorem lowerAfter_sigma (before rest : List Char) :
    lowerAfter before ('Σ' :: rest) = smallSigma before rest :: lowerAfter ('Σ' :: before) rest := by
  rw [lowerAfter, if_pos rfl]
  rfl

theorem lowerAfter_of_ne {c : Char} (plain : c ≠ 'Σ') (before rest : List Char) :
    lowerAfter before (c :: rest) = lowerChar c ++ lowerAfter (c :: before) rest := by
  rw [lowerAfter, if_neg plain]

theorem exists_lowerChar_eq {c : Char} (undotted : c ≠ 'İ') : ∃ small, lowerChar c = [small] := by
  unfold lowerChar
  rw [if_neg undotted]
  split <;> exact ⟨_, rfl⟩

theorem exists_lowerAfter_cons {c : Char} (undotted : c ≠ 'İ') (before rest : List Char) :
    ∃ small, lowerAfter before (c :: rest) = small :: lowerAfter (c :: before) rest := by
  by_cases sigma : c = 'Σ'
  · subst sigma
    exact ⟨_, lowerAfter_sigma before rest⟩
  · obtain ⟨small, lowered⟩ := exists_lowerChar_eq undotted
    exact ⟨small, by rw [lowerAfter_of_ne sigma, lowered, List.singleton_append]⟩

/-- What holds of the first codes one by one holds of their characters. -/
theorem forall_of_codes {Holds : Char → Prop} {bound : Nat}
    (each : ∀ code < bound, Holds (Char.ofNat code)) (c : Char) (low : c.toNat < bound) : Holds c := by
  have holds := each c.toNat low
  rwa [Char.ofNat_toNat] at holds

/-- No character is shifted down to the signs and digits. -/
theorem lt_shiftCode {code : Nat} (high : 128 ≤ code) : 64 < shiftCode lowerRuns code := by
  have clear : ∀ run ∈ lowerRuns, 64 < ((max 128 run.first : Nat) : Int) + run.shift := by
    decide +kernel
  unfold shiftCode
  split
  next run found =>
    have holds := List.find?_some found
    have bound := clear run (List.mem_of_find?_eq_some found)
    simp only [CaseRun.holds, Bool.and_eq_true, decide_eq_true_eq] at holds
    omega
  next => omega

theorem eq_of_mem_lowerChar {c sign : Char} (printed : 32 ≤ sign.toNat) (low : sign.toNat ≤ 64)
    (member : sign ∈ lowerChar c) : c = sign := by
  unfold lowerChar at member
  split at member
  next ascii =>
    have kept : ∀ c : Char, c.toNat < 128 → c.toLower.toNat ≤ 64 → c = c.toLower :=
      forall_of_codes (by decide +kernel)
    obtain rfl := List.mem_singleton.mp member
    exact kept c ascii low
  next high =>
    split at member
    next =>
      simp only [List.mem_cons, List.not_mem_nil, or_false] at member
      rcases member with rfl | rfl <;> contradiction
    next =>
      -- A shifted code that is no character gives the null character, which is no sign.
      obtain rfl := List.mem_singleton.mp member
      have bound := lt_shiftCode (Nat.le_of_not_lt high)
      rw [Char.ofNat] at printed low
      by_cases valid : (shiftCode lowerRuns c.toNat).isValidChar
      · rw [dif_pos valid] at low
        change shiftCode lowerRuns c.toNat ≤ 64 at low
        omega
      · rw [dif_neg valid] at printed
        contradiction

theorem lowerChar_sign {sign : Char} (low : sign.toNat ≤ 64) : lowerChar sign = [sign] := by
  have kept : ∀ c : Char, c.toNat < 65 → c.toLower = c := forall_of_codes (by decide +kernel)
  rw [lowerChar, if_pos (by omega), kept sign (by omega)]

theorem lowerChar_ne_nil (c : Char) : lowerChar c ≠ [] := by
  unfold lowerChar
  split
  · exact List.cons_ne_nil _ _
  · split <;> exact List.cons_ne_nil _ _

theorem head?_lowerAfter_ne {sign : Char} (printed : 32 ≤ sign.toNat) (low : sign.toNat ≤ 64)
    (before : List Char) {text : List Char} (different : text.head? ≠ some sign) :
    (lowerAfter before text).head? ≠ some sign := by
  intro opens
  cases text with
  | nil => contradiction
  | cons c rest =>
    by_cases sigma : c = 'Σ'
    · subst sigma
      rw [lowerAfter_sigma, smallSigma] at opens
      obtain rfl := Option.some.inj opens
      split at low <;> contradiction
    · obtain ⟨first, others, lowered⟩ := List.exists_cons_of_ne_nil (lowerChar_ne_nil c)
      rw [lowerAfter_of_ne sigma, lowered] at opens
      obtain rfl := Option.some.inj opens
      have same := eq_of_mem_lowerChar printed low (lowered ▸ List.mem_cons_self)
      exact different (congrArg some same)

theorem lowerAfter_ne_nil (before : List Char) (c : Char) (rest : List Char) :
    lowerAfter before (c :: rest) ≠ [] := by
  by_cases sigma : c = 'Σ'
  · rw [sigma, lowerAfter_sigma]
    exact List.cons_ne_nil _ _
  · rw [lowerAfter_of_ne sigma]
    exact List.append_ne_nil_of_left_ne_nil (lowerChar_ne_nil c) _

theorem lowerAfter_eq_singleton_iff {sign : Char} (printed : 32 ≤ sign.toNat) (low : sign.toNat ≤ 64)
    {text : List Char} : lowerAfter [] text = [sign] ↔ text = [sign] := by
  have plain : sign ≠ 'Σ' := by
    rintro rfl
    contradiction
  have opened (rest : List Char) :
      lowerAfter [] (sign :: rest) = sign :: lowerAfter [sign] rest := by
    rw [lowerAfter_of_ne plain, lowerChar_sign low, List.singleton_append]
  constructor
  · intro lowered
    cases text with
    | nil => cases lowered
    | cons c rest =>
      have opens : c = sign := by
        refine Decidable.not_not.mp fun different => ?_
        have opened : (c :: rest).head? ≠ some sign := mt Option.some.inj different
        exact head?_lowerAfter_ne printed low [] opened (congrArg List.head? lowered)
      subst opens
      rw [opened, List.cons.injEq] at lowered
      cases rest with
      | nil => rfl
      | cons next others => exact absurd lowered.2 (lowerAfter_ne_nil _ next others)
  · rintro rfl
    exact opened []

theorem lowercase_eq_star_iff {text : String} : lowercase text = "*" ↔ text = "*" := by
  rw [← String.toList_inj, ← String.toList_inj, lowercase, String.toList_ofList]
  exact lowerAfter_eq_singleton_iff (by decide) (by decide)

theorem smallSigma_cases (before after : List Char) :
    smallSigma before after = 'σ' ∨ smallSigma before after = 'ς' := by
  unfold smallSigma
  split
  · exact .inr rfl
  · exact .inl rfl

/-- The small sigmas of a text, of either form. -/
def smallSigmas (text : List Char) : List Char := text.filter fun c => c = 'σ' ∨ c = 'ς'

theorem smallSigmas_cons_of_small {c : Char} (small : c = 'σ' ∨ c = 'ς') (text : List Char) :
    smallSigmas (c :: text) = c :: smallSigmas text :=
  List.filter_cons_of_pos (decide_eq_true small)

theorem smallSigmas_cons_of_ne {c : Char} (other : ¬ (c = 'σ' ∨ c = 'ς')) (text : List Char) :
    smallSigmas (c :: text) = smallSigmas text :=
  List.filter_cons_of_neg fun small => other (of_decide_eq_true small)

theorem smallSigmas_append (start rest : List Char) :
    smallSigmas (start ++ rest) = smallSigmas start ++ smallSigmas rest := List.filter_append ..

/-- How many small sigmas a text has in lower case, whatever stands around it. -/
def sigmaCount : List Char → Nat
  | [] => 0
  | c :: rest => (if c = 'Σ' then 1 else (smallSigmas (lowerChar c)).length) + sigmaCount rest

theorem sigmaCount_cons (c : Char) (text : List Char) :
    sigmaCount (c :: text) = sigmaCount [c] + sigmaCount text := by
  rw [sigmaCount, sigmaCount, sigmaCount, Nat.add_zero]

theorem exists_lowerAfter_append (before start rest : List Char) :
    ∃ lowered, lowerAfter before (start ++ rest) =
        lowered ++ lowerAfter (start.reverse ++ before) rest ∧
      (smallSigmas lowered).length = sigmaCount start := by
  induction start generalizing before with
  | nil => exact ⟨[], rfl, rfl⟩
  | cons c start ih =>
    obtain ⟨lowered, divided, counted⟩ := ih (c :: before)
    rw [List.reverse_cons, List.append_assoc, List.singleton_append, List.cons_append, sigmaCount,
      ← counted]
    by_cases sigma : c = 'Σ'
    · subst sigma
      refine ⟨smallSigma before (start ++ rest) :: lowered, ?_, ?_⟩
      · rw [lowerAfter_sigma, divided, List.cons_append]
      · rw [if_pos rfl, smallSigmas_cons_of_small (smallSigma_cases ..), List.length_cons,
          Nat.add_comm]
    · refine ⟨lowerChar c ++ lowered, ?_, ?_⟩
      · rw [lowerAfter_of_ne sigma, divided, List.append_assoc]
      · rw [if_neg sigma, smallSigmas_append, List.length_append]

theorem length_smallSigmas_lowerAfter (before text : List Char) :
    (smallSigmas (lowerAfter before text)).length = sigmaCount text := by
  obtain ⟨lowered, whole, counted⟩ := exists_lowerAfter_append before text []
  rw [List.append_nil] at whole
  rw [whole, lowerAfter, List.append_nil, counted]

/-- The end of a text is lowercased to the end of what the text is lowercased to. -/
theorem lowerAfter_suffix (before start rest : List Char) :
    lowerAfter (start.reverse ++ before) rest <:+ lowerAfter before (start ++ rest) := by
  obtain ⟨lowered, divided, _⟩ := exists_lowerAfter_append before start rest
  exact ⟨lowered, divided.symm⟩

end RouteProbe.Text
