import Mathlib.Data.List.Induction
import RouteProbe.Discovery.RouterContext

/-! # Histories of registrations

What is registered is what a history of registrations leaves: each name once, in the order of first
registration, with what was registered under it last. Where several histories lie behind one
another, the nearest that has a name decides on it.
-/

namespace RouteProbe

/-- A text that has been there before adds nothing to the different texts, and a new one comes
last. -/
theorem eraseDups_concat (texts : List String) (text : String) :
    (texts ++ [text]).eraseDups =
      if text ∈ texts then texts.eraseDups else texts.eraseDups ++ [text] := by
  rw [List.eraseDups_append]
  by_cases known : text ∈ texts
  · simp [List.removeAll, known]
  · simp [List.removeAll, known, List.eraseDups_cons]

namespace Registrations

variable {α : Type} {name sought : String} {item found : α}

section Put

variable {registrations : Registrations α}

/-- A name that is known keeps its place, and a new one comes last. -/
theorem map_fst_put (name : String) (item : α) (registrations : Registrations α) :
    (put name item registrations).map (·.1) =
      if name ∈ registrations.map (·.1) then registrations.map (·.1)
      else registrations.map (·.1) ++ [name] := by
  induction registrations with
  | nil => rfl
  | cons head rest ih =>
    obtain ⟨other, old⟩ := head
    by_cases same : other = name
    · simp [put, same]
    · simp only [put, if_neg same, List.map_cons, ih, List.mem_cons, Ne.symm same, false_or]
      split <;> rfl

theorem nodup_put (name : String) (item : α) (distinct : (registrations.map (·.1)).Nodup) :
    ((put name item registrations).map (·.1)).Nodup := by
  rw [map_fst_put]
  split
  · exact distinct
  next fresh =>
    refine List.nodup_append.mpr ⟨distinct, List.pairwise_singleton _ name, ?_⟩
    rintro other listed _ last rfl
    obtain rfl := List.mem_singleton.mp last
    exact fresh listed

theorem mem_put_iff (distinct : (registrations.map (·.1)).Nodup) :
    (sought, found) ∈ put name item registrations ↔
      sought = name ∧ found = item ∨ sought ≠ name ∧ (sought, found) ∈ registrations := by
  induction registrations with
  | nil => simp [put]
  | cons head rest ih =>
    obtain ⟨other, old⟩ := head
    obtain ⟨single, distinctRest⟩ := List.nodup_cons.mp distinct
    by_cases same : other = name
    · subst same
      simp only [put, if_true, List.mem_cons, Prod.mk.injEq]
      by_cases own : sought = other
      · subst own
        have absent : (sought, found) ∉ rest :=
          fun member => single (List.mem_map.mpr ⟨_, member, rfl⟩)
        simp [absent]
      · simp [own]
    · simp only [put, if_neg same, List.mem_cons, Prod.mk.injEq, ih distinctRest]
      by_cases own : sought = name
      · subst own
        simp [Ne.symm same]
      · simp [own]

end Put

/-- What a history of registrations leaves. -/
def ofHistory (history : List (String × α)) : Registrations α :=
  history.foldl (fun registrations entry => registrations.put entry.1 entry.2) []

/-- Whether something is what was registered last under a name. -/
def IsLatest (history : List (String × α)) (name : String) (item : α) : Prop :=
  ∃ earlier later, history = earlier ++ (name, item) :: later ∧ ∀ entry ∈ later, entry.1 ≠ name

section History

variable {history : List (String × α)}

theorem ofHistory_concat (history : List (String × α)) (name : String) (item : α) :
    ofHistory (history ++ [(name, item)]) = put name item (ofHistory history) := by
  rw [ofHistory, List.foldl_append]
  rfl

theorem isLatest_concat_iff :
    IsLatest (history ++ [(name, item)]) sought found ↔
      sought = name ∧ found = item ∨ sought ≠ name ∧ IsLatest history sought found := by
  constructor
  · rintro ⟨earlier, later, same, unregistered⟩
    -- The newest registration is the one in question, or one of those behind it.
    rcases later.eq_nil_or_concat with rfl | ⟨front, last, rfl⟩
    · obtain ⟨_, equal⟩ := List.append_inj' same rfl
      simp only [List.cons.injEq, Prod.mk.injEq, and_true] at equal
      exact .inl ⟨equal.1.symm, equal.2.symm⟩
    · rw [List.concat_eq_append] at same unregistered
      rw [← List.cons_append, ← List.append_assoc] at same
      obtain ⟨rfl, equal⟩ := List.append_inj' same rfl
      obtain rfl := (List.cons.inj equal).1
      have different := unregistered (name, item) (by simp)
      exact .inr ⟨Ne.symm different, earlier, front, rfl,
        fun entry member => unregistered entry (List.mem_append_left _ member)⟩
  · rintro (⟨rfl, rfl⟩ | ⟨different, earlier, later, rfl, unregistered⟩)
    · exact ⟨history, [], rfl, by simp⟩
    · refine ⟨earlier, later ++ [(name, item)], by simp, ?_⟩
      intro entry member
      rcases List.mem_append.mp member with before | last
      · exact unregistered entry before
      · obtain rfl := List.mem_singleton.mp last
        exact different.symm

/-- The names stand in the order of their first registration. -/
theorem map_fst_ofHistory (history : List (String × α)) :
    (ofHistory history).map (·.1) = (history.map (·.1)).eraseDups := by
  induction history using List.reverseRecOn with
  | nil => rfl
  | append_singleton history last ih =>
    obtain ⟨name, item⟩ := last
    rw [ofHistory_concat, map_fst_put, List.map_append, List.map_singleton, eraseDups_concat, ih]
    simp only [List.mem_eraseDups]

theorem mem_map_fst_ofHistory : name ∈ (ofHistory history).map (·.1) ↔ name ∈ history.map (·.1) := by
  rw [map_fst_ofHistory, List.mem_eraseDups]

theorem nodup_ofHistory (history : List (String × α)) : ((ofHistory history).map (·.1)).Nodup := by
  induction history using List.reverseRecOn with
  | nil => exact List.nodup_nil
  | append_singleton history last ih =>
    rw [ofHistory_concat]
    exact nodup_put _ _ ih

theorem mem_ofHistory_iff : (name, item) ∈ ofHistory history ↔ IsLatest history name item := by
  induction history using List.reverseRecOn with
  | nil => simp [ofHistory, IsLatest]
  | append_singleton history last ih =>
    rw [ofHistory_concat, mem_put_iff (nodup_ofHistory history), isLatest_concat_iff, ih]

end History

/-- The names that are visible through several histories, the nearest first: the own ones in the
order of their first registration, and behind them those that are inherited and not own ones. -/
def visibleNames : List (List (String × α)) → List String
  | [] => []
  | own :: inherited =>
    (own.map (·.1)).eraseDups ++ (visibleNames inherited).filter fun name => name ∉ own.map (·.1)

/-- What is visible under a name: what the nearest history that has the name has there last. -/
inductive IsVisible : List (List (String × α)) → String → α → Prop
  | own {history : List (String × α)} {inherited : List (List (String × α))} {name : String}
      {item : α} (latest : IsLatest history name item) : IsVisible (history :: inherited) name item
  | inherited {history : List (String × α)} {inherited : List (List (String × α))} {name : String}
      {item : α} (unregistered : name ∉ history.map (·.1)) (visible : IsVisible inherited name item) :
      IsVisible (history :: inherited) name item

/-- Looking through several histories shows the visible names, in their order. -/
theorem map_fst_visible (histories : List (List (String × α))) :
    (visible (histories.map ofHistory)).map (·.1) = visibleNames histories := by
  induction histories with
  | nil => rfl
  | cons own inherited ih =>
    rw [List.map_cons, visible, visibleNames, List.map_append, map_fst_ofHistory, ← ih,
      List.filter_map]
    simp only [List.mem_eraseDups]
    rfl

theorem nodup_visible (histories : List (List (String × α))) :
    ((visible (histories.map ofHistory)).map (·.1)).Nodup := by
  induction histories with
  | nil => exact List.nodup_nil
  | cons own inherited ih =>
    rw [List.map_cons, visible, List.map_append]
    refine List.nodup_append.mpr ⟨nodup_ofHistory own, ?_, ?_⟩
    · exact ih.sublist (List.filter_sublist.map _)
    · rintro name listed other hidden rfl
      obtain ⟨entry, member, rfl⟩ := List.mem_map.mp hidden
      simp only [List.mem_filter, decide_eq_true_eq] at member
      exact member.2 listed

theorem mem_visible_iff {histories : List (List (String × α))} :
    (name, item) ∈ visible (histories.map ofHistory) ↔ IsVisible histories name item := by
  induction histories with
  | nil =>
    constructor
    · intro impossible
      cases impossible
    · intro impossible
      cases impossible
  | cons own inherited ih =>
    simp only [List.map_cons, visible, List.mem_append, List.mem_filter, decide_eq_true_eq,
      mem_ofHistory_iff, mem_map_fst_ofHistory, ih]
    constructor
    · rintro (latest | ⟨shown, unregistered⟩)
      · exact .own latest
      · exact .inherited unregistered shown
    · intro shown
      cases shown with
      | own latest => exact .inl latest
      | inherited unregistered shown => exact .inr ⟨shown, unregistered⟩

end Registrations

end RouteProbe
