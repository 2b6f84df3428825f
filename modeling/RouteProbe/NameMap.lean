/-! # Finite maps from names

Entries are kept in strictly increasing order of their names, so that two maps which hold the same
value under every name are equal, and listing the names needs no further sorting. Main statements:
what a lookup finds after an insertion or an erasure, and `NameMap.ext_get?`.
-/

namespace RouteProbe

/-- A finite map from names, sorted by name. -/
structure NameMap (α : Type) where
  entries : List (String × α)
  sorted : entries.Pairwise fun first second => first.1 < second.1

namespace NameMap

variable {α : Type}

instance [DecidableEq α] : DecidableEq (NameMap α) := fun left right =>
  if same : left.entries = right.entries then
    .isTrue (by cases left; cases right; simp_all)
  else .isFalse fun equal => same (congrArg entries equal)

instance [Repr α] : Repr (NameMap α) := ⟨fun map precedence => reprPrec map.entries precedence⟩

def empty : NameMap α := ⟨[], .nil⟩

instance : Inhabited (NameMap α) := ⟨empty⟩

/-- Puts an entry where its name belongs, in place of one of the same name. -/
def insertEntry (name : String) (value : α) : List (String × α) → List (String × α)
  | [] => [(name, value)]
  | (other, old) :: rest =>
    if name < other then (name, value) :: (other, old) :: rest
    else if other < name then (other, old) :: insertEntry name value rest
    else (name, value) :: rest

theorem fst_of_mem_insertEntry {name : String} {value : α} {entries : List (String × α)}
    {entry : String × α} (member : entry ∈ insertEntry name value entries) :
    entry.1 = name ∨ entry ∈ entries := by
  induction entries with
  | nil => simp_all [insertEntry]
  | cons head rest ih =>
    obtain ⟨other, old⟩ := head
    simp only [insertEntry] at member
    split at member
    · rcases List.mem_cons.mp member with rfl | later
      · exact .inl rfl
      · exact .inr later
    · split at member
      · rcases List.mem_cons.mp member with rfl | later
        · exact .inr (List.mem_cons_self ..)
        · exact (ih later).imp id (List.mem_cons_of_mem _)
      · rcases List.mem_cons.mp member with rfl | later
        · exact .inl rfl
        · exact .inr (List.mem_cons_of_mem _ later)

theorem eq_of_not_lt {first second : String} (notLess : ¬ first < second)
    (notGreater : ¬ second < first) : first = second :=
  String.le_antisymm (String.not_lt.mp notGreater) (String.not_lt.mp notLess)

theorem pairwise_insertEntry (name : String) (value : α) {entries : List (String × α)}
    (sorted : entries.Pairwise fun first second => first.1 < second.1) :
    (insertEntry name value entries).Pairwise fun first second => first.1 < second.1 := by
  induction entries with
  | nil => simp [insertEntry]
  | cons head rest ih =>
    obtain ⟨other, old⟩ := head
    obtain ⟨below, restSorted⟩ := List.pairwise_cons.mp sorted
    simp only [insertEntry]
    split
    next less =>
      refine List.pairwise_cons.mpr ⟨fun entry member => ?_, sorted⟩
      rcases List.mem_cons.mp member with rfl | later
      · exact less
      · exact String.lt_trans less (below entry later)
    next notLess =>
      split
      next greater =>
        refine List.pairwise_cons.mpr ⟨fun entry member => ?_, ih restSorted⟩
        rcases fst_of_mem_insertEntry member with same | later
        · simpa [same] using greater
        · exact below entry later
      next notGreater =>
        have same := eq_of_not_lt notLess notGreater
        exact List.pairwise_cons.mpr ⟨fun entry member => same ▸ below entry member, restSorted⟩

def insert (map : NameMap α) (name : String) (value : α) : NameMap α :=
  ⟨insertEntry name value map.entries, pairwise_insertEntry name value map.sorted⟩

def erase (map : NameMap α) (name : String) : NameMap α :=
  ⟨map.entries.filter fun entry => entry.1 ≠ name, map.sorted.filter _⟩

def get? (map : NameMap α) (name : String) : Option α :=
  (map.entries.find? fun entry => entry.1 = name).map (·.2)

/-- Whether something is stored under `name`. -/
def contains (map : NameMap α) (name : String) : Bool := (map.get? name).isSome

def setOrErase (map : NameMap α) (name : String) : Option α → NameMap α
  | some value => map.insert name value
  | none => map.erase name

/-- The names, in increasing order. -/
def names (map : NameMap α) : List String := map.entries.map (·.1)

def size (map : NameMap α) : Nat := map.entries.length

/-- The map of a list of entries; of entries with one name the last is kept. -/
def ofList (entries : List (String × α)) : NameMap α :=
  entries.foldl (fun map entry => map.insert entry.1 entry.2) empty

@[simp] theorem get?_empty (name : String) : (empty : NameMap α).get? name = none := rfl

private theorem find?_insertEntry_self (name : String) (value : α) (entries : List (String × α)) :
    (insertEntry name value entries).find? (fun entry => entry.1 = name) = some (name, value) := by
  induction entries with
  | nil => simp [insertEntry]
  | cons head rest ih =>
    obtain ⟨other, old⟩ := head
    simp only [insertEntry]
    split
    · simp
    · split
      next greater =>
        have : other ≠ name := fun same => String.lt_irrefl _ (same ▸ greater)
        simpa [this] using ih
      · simp

private theorem find?_insertEntry_of_ne {name sought : String} (different : sought ≠ name)
    (value : α) (entries : List (String × α)) :
    (insertEntry name value entries).find? (fun entry => entry.1 = sought) =
      entries.find? fun entry => entry.1 = sought := by
  induction entries with
  | nil => simp [insertEntry, Ne.symm different]
  | cons head rest ih =>
    obtain ⟨other, old⟩ := head
    simp only [insertEntry]
    split
    · simp [Ne.symm different]
    · split
      · simp only [List.find?_cons, ih]
      next notLess notGreater =>
        have same := eq_of_not_lt notLess notGreater
        subst same
        simp [Ne.symm different]

@[simp] theorem get?_insert_self (map : NameMap α) (name : String) (value : α) :
    (map.insert name value).get? name = some value := by
  simp [get?, insert, find?_insertEntry_self]

theorem get?_insert_of_ne (map : NameMap α) {name sought : String} (different : sought ≠ name)
    (value : α) : (map.insert name value).get? sought = map.get? sought := by
  simp [get?, insert, find?_insertEntry_of_ne different]

@[simp] theorem get?_erase_self (map : NameMap α) (name : String) :
    (map.erase name).get? name = none := by
  simp [get?, erase]

theorem get?_erase_of_ne (map : NameMap α) {name sought : String} (different : sought ≠ name) :
    (map.erase name).get? sought = map.get? sought := by
  simp only [get?, erase, List.find?_filter]
  congr 2
  funext entry
  by_cases same : entry.1 = sought
  · simp [same, different]
  · simp [same]

private theorem entries_ext {left right : List (String × α)}
    (leftSorted : left.Pairwise fun first second => first.1 < second.1)
    (rightSorted : right.Pairwise fun first second => first.1 < second.1)
    (same : ∀ entry, entry ∈ left ↔ entry ∈ right) : left = right := by
  induction left generalizing right with
  | nil =>
    cases right with
    | nil => rfl
    | cons head rest => exact absurd ((same head).mpr (List.mem_cons_self ..)) (by simp)
  | cons head rest ih =>
    cases right with
    | nil => exact absurd ((same head).mp (List.mem_cons_self ..)) (by simp)
    | cons head' rest' =>
      obtain ⟨below, restSorted⟩ := List.pairwise_cons.mp leftSorted
      obtain ⟨below', restSorted'⟩ := List.pairwise_cons.mp rightSorted
      have heads : head = head' := by
        rcases List.mem_cons.mp ((same head).mp (List.mem_cons_self ..)) with equal | later
        · exact equal
        · rcases List.mem_cons.mp ((same head').mpr (List.mem_cons_self ..)) with equal | later'
          · exact equal.symm
          · exact absurd (String.lt_trans (below' _ later) (below _ later')) (String.lt_irrefl _)
      subst heads
      rw [ih restSorted restSorted' fun entry => ⟨fun member => ?_, fun member => ?_⟩]
      · rcases List.mem_cons.mp ((same entry).mp (List.mem_cons_of_mem _ member)) with equal | later
        · exact absurd (equal ▸ below entry member) (String.lt_irrefl _)
        · exact later
      · rcases List.mem_cons.mp ((same entry).mpr (List.mem_cons_of_mem _ member)) with
          equal | later
        · exact absurd (equal ▸ below' entry member) (String.lt_irrefl _)
        · exact later

theorem get?_eq_some_iff (map : NameMap α) {name : String} {value : α} :
    map.get? name = some value ↔ (name, value) ∈ map.entries := by
  obtain ⟨entries, sorted⟩ := map
  induction entries with
  | nil => simp [get?]
  | cons head rest ih =>
    obtain ⟨below, restSorted⟩ := List.pairwise_cons.mp sorted
    obtain ⟨other, old⟩ := head
    have ih := ih restSorted
    simp only [get?] at ih
    by_cases same : other = name
    · subst same
      constructor
      · intro found
        simp only [get?, List.find?_cons, decide_true, Option.map_some, Option.some.injEq] at found
        exact found ▸ List.mem_cons_self ..
      · intro member
        rcases List.mem_cons.mp member with equal | later
        · simp_all [get?]
        · exact absurd (below _ later) (String.lt_irrefl _)
    · constructor
      · intro found
        simp only [get?, List.find?_cons, same, decide_false] at found
        exact List.mem_cons_of_mem _ (ih.mp found)
      · intro member
        rcases List.mem_cons.mp member with equal | later
        · exact absurd (congrArg Prod.fst equal).symm same
        · simpa [get?, same] using ih.mpr later

/-- Maps with the same value under every name are equal. -/
theorem ext_get? {left right : NameMap α} (same : ∀ name, left.get? name = right.get? name) :
    left = right := by
  have entries : left.entries = right.entries :=
    entries_ext left.sorted right.sorted fun entry => by
      rw [← get?_eq_some_iff, ← get?_eq_some_iff, same]
  cases left; cases right; simp_all

end NameMap

/-- A finite set of names. -/
abbrev NameSet := NameMap Unit

namespace NameSet

def ofList (names : List String) : NameSet :=
  names.foldl (fun set name => set.insert name ()) NameMap.empty

end NameSet

end RouteProbe
