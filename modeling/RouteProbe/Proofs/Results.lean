/-! # Results of computations that can fail

When a computation in several steps gives a result, every step has given one.
-/

namespace RouteProbe

variable {ε ε' α β : Type}

@[simp] theorem ok_bind (value : α) (next : α → Except ε β) : (.ok value >>= next) = next value := rfl

theorem bind_eq_ok_iff {first : Except ε α} {next : α → Except ε β} {result : β} :
    (first >>= next) = .ok result ↔ ∃ value, first = .ok value ∧ next value = .ok result := by
  cases first <;> simp [bind, Except.bind]

theorem bind_eq_error_iff {first : Except ε α} {next : α → Except ε β} {error : ε} :
    (first >>= next) = .error error ↔
      first = .error error ∨ ∃ value, first = .ok value ∧ next value = .error error := by
  cases first <;> simp [bind, Except.bind]

theorem map_eq_ok_iff {first : Except ε α} {change : α → β} {result : β} :
    change <$> first = .ok result ↔ ∃ value, first = .ok value ∧ change value = result := by
  cases first <;> simp [Functor.map, Except.map]

theorem map_eq_error_iff {first : Except ε α} {change : α → β} {error : ε} :
    change <$> first = .error error ↔ first = .error error := by
  cases first <;> simp [Functor.map, Except.map]

theorem pure_eq_ok_iff {value result : α} :
    (pure value : Except ε α) = .ok result ↔ value = result := by
  simp [pure, Except.pure]

theorem throw_ne_ok {error : ε} {result : α} : (throw error : Except ε α) ≠ .ok result := by
  simp [throw, throwThe, MonadExceptOf.throw]

theorem mapError_eq_ok_iff {change : ε → ε'} {outcome : Except ε α} {result : α} :
    outcome.mapError change = .ok result ↔ outcome = .ok result := by
  cases outcome with
  | ok value =>
    change (Except.ok value : Except ε' α) = .ok result ↔ _
    simp only [Except.ok.injEq]
  | error error =>
    change (Except.error (change error) : Except ε' α) = .ok result ↔ _
    simp only [reduceCtorEq]

theorem mapError_eq_error_iff {change : ε → ε'} {outcome : Except ε α} {error : ε'} :
    outcome.mapError change = .error error ↔ ∃ cause, outcome = .error cause ∧ change cause = error := by
  cases outcome with
  | ok value =>
    change (Except.ok value : Except ε' α) = .error error ↔ _
    simp only [reduceCtorEq, false_and, exists_false]
  | error cause =>
    change (Except.error (change cause) : Except ε' α) = .error error ↔ _
    simp only [Except.error.injEq, exists_eq_left']

theorem exceptMap_eq_error_iff {first : Except ε α} {change : α → β} {error : ε} :
    first.map change = .error error ↔ first = .error error := by
  cases first <;> simp [Except.map]

theorem mapM_eq_ok_iff {compute : α → Except ε β} {items : List α} {results : List β} :
    items.mapM compute = .ok results ↔ items.map compute = results.map .ok := by
  induction items generalizing results with
  | nil => cases results <;> simp [pure_eq_ok_iff]
  | cons item rest ih =>
    rw [List.mapM_cons, bind_eq_ok_iff, List.map_cons]
    constructor
    · rintro ⟨result, computed, remaining⟩
      obtain ⟨later, laterComputed, same⟩ := bind_eq_ok_iff.mp remaining
      obtain rfl := pure_eq_ok_iff.mp same
      rw [computed, ih.mp laterComputed, List.map_cons]
    · intro same
      obtain ⟨result, later, rfl, computed, laterComputed⟩ := List.map_eq_cons_iff.mp same.symm
      refine ⟨result, computed.symm, bind_eq_ok_iff.mpr ⟨later, ih.mpr laterComputed.symm, rfl⟩⟩

theorem exists_mapM_eq_ok_iff {compute : α → Except ε β} {items : List α} :
    (∃ results, items.mapM compute = .ok results) ↔
      ∀ item ∈ items, ∃ result, compute item = .ok result := by
  induction items with
  | nil => simp [pure_eq_ok_iff]
  | cons item rest ih =>
    simp only [List.mapM_cons, bind_eq_ok_iff, pure_eq_ok_iff, List.forall_mem_cons, ← ih]
    constructor
    · rintro ⟨_, result, computed, later, laterComputed, rfl⟩
      exact ⟨⟨result, computed⟩, later, laterComputed⟩
    · rintro ⟨⟨result, computed⟩, later, laterComputed⟩
      exact ⟨_, result, computed, later, laterComputed, rfl⟩

theorem mapM_eq_error_iff {compute : α → Except ε β} {items : List α} {error : ε} :
    items.mapM compute = .error error ↔
      ∃ before item after, items = before ++ item :: after ∧
        (∀ earlier ∈ before, ∃ result, compute earlier = .ok result) ∧
          compute item = .error error := by
  induction items with
  | nil => simp [pure, Except.pure]
  | cons item rest ih =>
    rw [List.mapM_cons, bind_eq_error_iff]
    constructor
    · rintro (failed | ⟨result, computed, later⟩)
      · exact ⟨[], item, rest, rfl, by simp, failed⟩
      · rcases bind_eq_error_iff.mp later with failed | ⟨_, _, impossible⟩
        · obtain ⟨before, first, after, rfl, earlier, failed⟩ := ih.mp failed
          exact ⟨item :: before, first, after, rfl,
            List.forall_mem_cons.mpr ⟨⟨result, computed⟩, earlier⟩, failed⟩
        · cases impossible
    · rintro ⟨before, first, after, divided, earlier, failed⟩
      cases before with
      | nil =>
        obtain ⟨rfl, rfl⟩ := List.cons.inj divided
        exact .inl failed
      | cons head before =>
        obtain ⟨rfl, rfl⟩ := List.cons.inj divided
        obtain ⟨⟨result, computed⟩, others⟩ := List.forall_mem_cons.mp earlier
        have later := ih.mpr ⟨before, first, after, rfl, others, failed⟩
        exact .inr ⟨result, computed, bind_eq_error_iff.mpr (.inl later)⟩

end RouteProbe
