import RouteProbe.Request.Basic

/-! # Writes to attributes

Whatever a router does to the attributes of a request is a list of writes, each of which leaves a
value under a name or takes it off. What is found under a name afterwards is what the last write
under that name has left, or what was there before if there is no such write.
-/

namespace RouteProbe

theorem NameMap.get?_setOrErase {α : Type} (map : NameMap α) (name sought : String)
    (value : Option α) :
    (map.setOrErase name value).get? sought = if sought = name then value else map.get? sought := by
  by_cases same : sought = name
  · subst same
    cases value <;> simp [setOrErase]
  · rw [if_neg same]
    cases value with
    | none => exact map.get?_erase_of_ne same
    | some value => exact map.get?_insert_of_ne same value

theorem NameMap.get?_of_not_mem_names {α : Type} {map : NameMap α} {name : String}
    (unlisted : name ∉ map.names) : map.get? name = none := by
  cases found : map.get? name with
  | none => rfl
  | some value =>
    have listed := List.mem_map_of_mem (f := Prod.fst) (map.get?_eq_some_iff.mp found)
    exact absurd listed unlisted

/-- One write: what is left under a name, which may be nothing. -/
structure AttributeWrite where
  name : String
  left : Option AttributeValue

namespace AttributeWrite

def applyAll (writes : List AttributeWrite) (attributes : Attributes) : Attributes :=
  writes.foldl (fun attributes write => attributes.setOrErase write.name write.left) attributes

/-- What the last write under a name leaves there, if there is one. -/
def lastLeft? (name : String) : List AttributeWrite → Option (Option AttributeValue)
  | [] => none
  | write :: rest => (lastLeft? name rest).or (if name = write.name then some write.left else none)

variable (name : String) (writes : List AttributeWrite) (attributes : Attributes)

theorem get?_applyAll :
    (applyAll writes attributes).get? name = (lastLeft? name writes).getD (attributes.get? name) := by
  induction writes generalizing attributes with
  | nil => rfl
  | cons write rest ih =>
    have later := ih (attributes.setOrErase write.name write.left)
    rw [NameMap.get?_setOrErase] at later
    rw [applyAll, List.foldl_cons, ← applyAll, later, lastLeft?]
    cases lastLeft? name rest with
    | some left => rfl
    | none =>
      rw [Option.none_or]
      split <;> rfl

theorem lastLeft?_append (earlier later : List AttributeWrite) :
    lastLeft? name (earlier ++ later) = (lastLeft? name later).or (lastLeft? name earlier) := by
  induction earlier with
  | nil => rw [List.nil_append, lastLeft?, Option.or_none]
  | cons write rest ih => rw [List.cons_append, lastLeft?, ih, lastLeft?, Option.or_assoc]

theorem lastLeft?_map (names : List String) (left : String → Option AttributeValue) :
    lastLeft? name (names.map fun name => ⟨name, left name⟩) =
      if name ∈ names then some (left name) else none := by
  induction names with
  | nil => simp [lastLeft?]
  | cons other rest ih =>
    rw [List.map_cons, lastLeft?, ih]
    by_cases later : name ∈ rest
    · rw [if_pos later, if_pos (List.mem_cons_of_mem other later), Option.some_or]
    · rw [if_neg later, Option.none_or]
      by_cases same : name = other
      · subst same
        rw [if_pos rfl, if_pos List.mem_cons_self]
      · rw [if_neg same, if_neg (by simp [same, later])]

theorem lastLeft?_eq_none_iff :
    lastLeft? name writes = none ↔ ∀ write ∈ writes, write.name ≠ name := by
  induction writes with
  | nil => simp [lastLeft?]
  | cons write rest ih =>
    rw [lastLeft?, Option.or_eq_none_iff, ih, List.forall_mem_cons, and_comm]
    simp [eq_comm]

theorem exists_of_lastLeft? {left : Option AttributeValue}
    (last : lastLeft? name writes = some left) :
    ∃ write ∈ writes, write.name = name ∧ write.left = left := by
  induction writes with
  | nil => cases last
  | cons write rest ih =>
    rw [lastLeft?, Option.or_eq_some_iff] at last
    rcases last with later | ⟨_, first⟩
    · obtain ⟨other, member, same⟩ := ih later
      exact ⟨other, List.mem_cons_of_mem write member, same⟩
    · obtain ⟨same, held⟩ := Option.ite_none_right_eq_some.mp first
      exact ⟨write, List.mem_cons_self, same.symm, Option.some.inj held⟩

theorem lastLeft?_eq_some {left : Option AttributeValue}
    (written : ∃ write ∈ writes, write.name = name)
    (alike : ∀ write ∈ writes, write.name = name → write.left = left) :
    lastLeft? name writes = some left := by
  cases last : lastLeft? name writes with
  | none =>
    obtain ⟨write, member, same⟩ := written
    exact absurd same ((lastLeft?_eq_none_iff name writes).mp last write member)
  | some found =>
    obtain ⟨write, member, same, held⟩ := exists_of_lastLeft? name writes last
    rw [← held, alike write member same]

/-- Leaving out all writes under some names changes nothing under the others. -/
theorem lastLeft?_filter (keep : String → Bool) :
    lastLeft? name (writes.filter fun write => keep write.name) =
      if keep name then lastLeft? name writes else none := by
  induction writes with
  | nil => simp [lastLeft?]
  | cons write rest ih =>
    by_cases same : name = write.name
    · subst same
      cases kept : keep write.name <;> simp [kept, ih, lastLeft?]
    · cases kept : keep write.name <;> simp [kept, ih, lastLeft?, same]

/-- The writes that put back what is found under names now. -/
def saving (attributes : Attributes) (names : List String) : List AttributeWrite :=
  names.map fun name => ⟨name, attributes.get? name⟩

/-- Whatever is written under saved names, putting them back in any order leaves what was there. -/
theorem applyAll_saving {names : List String} {changes order : List AttributeWrite}
    (saved : ∀ change ∈ changes, change.name ∈ names) (arranged : order.Perm (saving attributes names)) :
    applyAll order (applyAll changes attributes) = attributes := by
  apply NameMap.ext_get?
  intro name
  rw [get?_applyAll, get?_applyAll]
  by_cases listed : name ∈ names
  · have last : lastLeft? name order = some (attributes.get? name) := by
      apply lastLeft?_eq_some
      · have member := arranged.mem_iff.mpr (List.mem_map_of_mem listed)
        exact ⟨_, member, rfl⟩
      · intro write member same
        obtain ⟨other, _, rfl⟩ := List.mem_map.mp (arranged.mem_iff.mp member)
        exact congrArg attributes.get? same
    rw [last, Option.getD_some]
  · have unordered : lastLeft? name order = none := by
      rw [lastLeft?_eq_none_iff]
      rintro write member rfl
      obtain ⟨other, present, rfl⟩ := List.mem_map.mp (arranged.mem_iff.mp member)
      exact listed present
    have unchanged : lastLeft? name changes = none := by
      rw [lastLeft?_eq_none_iff]
      rintro change member rfl
      exact listed (saved change member)
    rw [unordered, unchanged, Option.getD_none, Option.getD_none]

/-- Every change of attributes is made up of writes. -/
theorem exists_applyAll_eq (before after : Attributes) : ∃ writes, applyAll writes before = after := by
  refine ⟨(before.names ++ after.names).map fun name => ⟨name, after.get? name⟩, ?_⟩
  apply NameMap.ext_get?
  intro name
  rw [get?_applyAll, lastLeft?_map]
  by_cases listed : name ∈ before.names ++ after.names
  · rw [if_pos listed, Option.getD_some]
  · rw [if_neg listed, Option.getD_none]
    have unlisted := not_or.mp fun either => listed (List.mem_append.mpr either)
    rw [NameMap.get?_of_not_mem_names unlisted.1, NameMap.get?_of_not_mem_names unlisted.2]

end AttributeWrite

end RouteProbe
