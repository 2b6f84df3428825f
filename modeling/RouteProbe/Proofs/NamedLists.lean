import Mathlib.Data.List.Nodup

/-! # Lists of named things

Looking a name up in a list finds the first thing of that name. If all names are different, it finds
just what the list has, and the order of the list does not matter.
-/

namespace RouteProbe

variable {κ α : Type} [BEq κ] [LawfulBEq κ] {entries others : List (κ × α)} {name : κ} {item : α}

theorem lookup_eq_none_iff : entries.lookup name = none ↔ name ∉ entries.map (·.1) := by
  rw [List.lookup_eq_none_iff]
  constructor
  · intro absent listed
    obtain ⟨entry, member, rfl⟩ := List.mem_map.mp listed
    simpa using absent entry member
  · intro unlisted entry member
    have different : name ≠ entry.1 := fun same => unlisted (same ▸ List.mem_map_of_mem member)
    simpa using different

theorem mem_of_lookup (found : entries.lookup name = some item) : (name, item) ∈ entries := by
  obtain ⟨before, after, rfl, _⟩ := List.lookup_eq_some_iff.mp found
  exact List.mem_append_right _ List.mem_cons_self

theorem lookup_eq_some_iff_mem (distinct : (entries.map (·.1)).Nodup) :
    entries.lookup name = some item ↔ (name, item) ∈ entries := by
  refine ⟨mem_of_lookup, fun listed => List.lookup_eq_some_iff.mpr ?_⟩
  obtain ⟨before, after, rfl⟩ := List.append_of_mem listed
  refine ⟨before, after, rfl, fun entry earlier => ?_⟩
  rw [List.map_append] at distinct
  have apart := (List.nodup_append.mp distinct).2.2 entry.1 (List.mem_map_of_mem earlier) name
    List.mem_cons_self
  simpa using apart.symm

theorem lookup_of_perm (distinct : (entries.map (·.1)).Nodup) (permuted : others.Perm entries)
    (name : κ) : others.lookup name = entries.lookup name := by
  have distinctToo : (others.map (·.1)).Nodup := (permuted.map _).nodup_iff.mpr distinct
  apply Option.ext
  intro item
  rw [lookup_eq_some_iff_mem distinctToo, lookup_eq_some_iff_mem distinct, permuted.mem_iff]

theorem lookup_cons_eq_ite [DecidableEq κ] (other name : κ) (item : α) (rest : List (κ × α)) :
    List.lookup name ((other, item) :: rest) =
      if name = other then some item else rest.lookup name := by
  rw [List.lookup_cons]
  by_cases same : name = other
  · rw [if_pos same, same, beq_self_eq_true]
  · rw [if_neg same, beq_false_of_ne same]

end RouteProbe
