import RouteProbe.Settings.Basic

/-! # What trimming leaves

Trimming cuts the blanks off both ends of a text, and leaves a text that has none there. There is
only one such text (`Text.trim_eq_iff`), and nothing is left exactly of a text that is blank.
-/

namespace RouteProbe

namespace Text

/-- A text and what is left of it without the blanks around it. -/
structure Trims (text core : String) : Prop where
  around : ∃ before after, text.toList = before ++ core.toList ++ after ∧
    (∀ c ∈ before, isBlank c = true) ∧ ∀ c ∈ after, isBlank c = true
  opens : ∀ c, core.toList.head? = some c → isBlank c = false
  closes : ∀ c, core.toList.getLast? = some c → isBlank c = false

variable {text core : String}

theorem dropWhile_isBlank_append {before rest : List Char} (blank : ∀ c ∈ before, isBlank c = true)
    (opens : ∀ c, rest.head? = some c → isBlank c = false) :
    (before ++ rest).dropWhile isBlank = rest := by
  rw [List.dropWhile_append_of_pos blank]
  cases rest with
  | nil => rfl
  | cons c rest => exact List.dropWhile_cons_of_neg (by simp [opens c rfl])

theorem isBlank_of_head?_dropWhile {letters : List Char} {c : Char}
    (first : (letters.dropWhile isBlank).head? = some c) : isBlank c = false := by
  have stops := List.head?_dropWhile_not isBlank letters
  rw [first] at stops
  exact stops

/-- A text is trimmed to what is left of it without the blanks around it. -/
theorem trims_trim (text : String) : Trims text (trim text) := by
  generalize opened : text.toList.dropWhile isBlank = rest
  generalize closed : rest.reverse.dropWhile isBlank = core
  have left : (trim text).toList = core.reverse := by
    rw [trim, opened, closed, String.toList_ofList]
  have back : rest = core.reverse ++ (rest.reverse.takeWhile isBlank).reverse := by
    rw [← List.reverse_append, ← closed, List.takeWhile_append_dropWhile, List.reverse_reverse]
  refine ⟨⟨text.toList.takeWhile isBlank, (rest.reverse.takeWhile isBlank).reverse, ?_, ?_, ?_⟩, ?_, ?_⟩
  · rw [left, List.append_assoc, ← back, ← opened, List.takeWhile_append_dropWhile]
  · exact List.all_eq_true.mp List.all_takeWhile
  · simpa using List.all_eq_true.mp (List.all_takeWhile (l := rest.reverse))
  · intro c first
    rw [left] at first
    have firstLeft : (text.toList.dropWhile isBlank).head? = some c := by
      rw [opened, back, List.head?_append, first, Option.some_or]
    exact isBlank_of_head?_dropWhile firstLeft
  · intro c last
    rw [left, List.getLast?_reverse, ← closed] at last
    exact isBlank_of_head?_dropWhile last

theorem Trims.trim_eq (trims : Trims text core) : trim text = core := by
  obtain ⟨⟨before, after, letters, blankBefore, blankAfter⟩, opens, closes⟩ := trims
  apply String.toList_inj.mp
  rw [trim, String.toList_ofList, letters, List.append_assoc]
  cases inner : core.toList with
  | nil =>
    have blank : ∀ c ∈ before ++ after, isBlank c = true :=
      List.forall_mem_append.mpr ⟨blankBefore, blankAfter⟩
    have gone : (before ++ after ++ []).dropWhile isBlank = [] :=
      dropWhile_isBlank_append blank (by simp)
    rw [List.append_nil] at gone
    rw [List.nil_append, gone]
    rfl
  | cons c rest =>
    rw [inner] at opens closes
    rw [← List.head?_reverse] at closes
    have opensToo : ∀ first, (c :: rest ++ after).head? = some first → isBlank first = false := opens
    rw [dropWhile_isBlank_append blankBefore opensToo, List.reverse_append,
      dropWhile_isBlank_append (by simpa using blankAfter) closes, List.reverse_reverse]

theorem trim_eq_iff : trim text = core ↔ Trims text core :=
  ⟨fun same => same ▸ trims_trim text, Trims.trim_eq⟩

/-- A text without blanks at its ends stays as it is. -/
theorem trim_trim (text : String) : trim (trim text) = trim text := by
  obtain ⟨_, opens, closes⟩ := trims_trim text
  exact Trims.trim_eq ⟨⟨[], [], by simp⟩, opens, closes⟩

theorem mem_of_mem_trim {c : Char} (inside : c ∈ (trim text).toList) : c ∈ text.toList := by
  obtain ⟨before, after, letters, _⟩ := (trims_trim text).around
  rw [letters]
  exact List.mem_append_left _ (List.mem_append_right _ inside)

end Text

theorem isBlankText_iff (text : String) : isBlankText text = true ↔ Text.trim text = "" := by
  rw [isBlankText, List.all_eq_true]
  constructor
  · intro blank
    exact Text.Trims.trim_eq ⟨⟨text.toList, [], by simp, blank, by simp⟩, by simp, by simp⟩
  · intro nothing
    obtain ⟨before, after, letters, blankBefore, blankAfter⟩ := (Text.trims_trim text).around
    rw [letters, nothing]
    simpa using List.forall_mem_append.mpr ⟨blankBefore, blankAfter⟩

end RouteProbe
