import Mathlib.Data.List.Basic
import Mathlib.Data.List.Induction
import RouteProbe.Text.Split

/-! # Pieces of a text

The pieces of a text do not contain the separator, and pieces that do not contain it are got back
when the text that they make up is cut.
-/

namespace RouteProbe.Text

variable {sep : Char}

theorem exists_cut_cons {c : Char} (different : c ≠ sep) (rest : List Char) :
    ∃ head tail, cut sep rest = head :: tail ∧ cut sep (c :: rest) = (c :: head) :: tail := by
  obtain ⟨head, tail, pieces⟩ := List.exists_cons_of_ne_nil (cut_ne_nil sep rest)
  exact ⟨head, tail, pieces, by rw [cut, if_neg different, pieces]; rfl⟩

theorem ne_and_mem_of_mem_cut {text piece : List Char} (member : piece ∈ cut sep text) {c : Char}
    (inside : c ∈ piece) : c ≠ sep ∧ c ∈ text := by
  induction text generalizing piece with
  | nil =>
    obtain rfl := List.mem_singleton.mp member
    contradiction
  | cons first rest ih =>
    by_cases same : first = sep
    · rw [cut, if_pos same] at member
      rcases List.mem_cons.mp member with rfl | later
      · contradiction
      · exact (ih later inside).imp_right (List.mem_cons_of_mem first)
    · obtain ⟨head, tail, pieces, extended⟩ := exists_cut_cons same rest
      rw [pieces] at ih
      rw [extended] at member
      rcases List.mem_cons.mp member with rfl | later
      · rcases List.mem_cons.mp inside with rfl | further
        · exact ⟨same, List.mem_cons_self⟩
        · exact (ih List.mem_cons_self further).imp_right (List.mem_cons_of_mem first)
      · exact (ih (List.mem_cons_of_mem head later) inside).imp_right (List.mem_cons_of_mem first)

theorem not_mem_of_mem_cut {text piece : List Char} (member : piece ∈ cut sep text) :
    sep ∉ piece :=
  fun inside => (ne_and_mem_of_mem_cut member inside).1 rfl

theorem cut_of_not_mem {piece : List Char} (free : sep ∉ piece) : cut sep piece = [piece] := by
  induction piece with
  | nil => rfl
  | cons c rest ih =>
    obtain ⟨different, later⟩ := not_or.mp (mt List.mem_cons.mpr free)
    rw [cut, if_neg (Ne.symm different), ih later]
    rfl

theorem cut_append_cons (text rest : List Char) :
    cut sep (text ++ sep :: rest) = cut sep text ++ cut sep rest := by
  induction text with
  | nil => simp [cut]
  | cons c text ih =>
    by_cases same : c = sep
    · simp [cut, same, ih]
    · cases pieces : cut sep text with
      | nil => exact absurd pieces (cut_ne_nil sep text)
      | cons head tail => simp [cut, same, ih, pieces]

/-- Pieces with a separator in front of each are got back, behind an empty one. -/
theorem cut_flatMap {pieces : List (List Char)} (free : ∀ piece ∈ pieces, sep ∉ piece) :
    cut sep (pieces.flatMap (sep :: ·)) = [] :: pieces := by
  induction pieces using List.reverseRecOn with
  | nil => rfl
  | append_singleton pieces last ih =>
    obtain ⟨earlier, final⟩ := List.forall_mem_append.mp free
    rw [List.flatMap_append, List.flatMap_singleton, cut_append_cons, ih earlier,
      cut_of_not_mem (final last (List.mem_singleton_self last)), List.cons_append]

/-- What is glued together is cut where it was glued, and wherever one of the parts is. -/
theorem cut_glue {parts : List (List Char)} (nonempty : parts ≠ []) :
    cut sep (glue sep parts) = parts.flatMap (cut sep) := by
  induction parts with
  | nil => contradiction
  | cons first rest ih =>
    cases rest with
    | nil => simp [glue]
    | cons second rest =>
      have whole : glue sep (first :: second :: rest) = first ++ sep :: glue sep (second :: rest) := rfl
      rw [whole, cut_append_cons, ih (List.cons_ne_nil second rest)]
      rfl

theorem glue_concat {front : List (List Char)} (nonempty : front ≠ []) (last : List Char) :
    glue sep (front ++ [last]) = glue sep front ++ sep :: last := by
  induction front with
  | nil => contradiction
  | cons first rest ih =>
    cases rest with
    | nil => rfl
    | cons second rest =>
      have later := ih (List.cons_ne_nil second rest)
      simp only [List.cons_append, glue, List.append_assoc] at later ⊢
      rw [later]

theorem pieces_ne_nil (sep : Char) (text : String) : pieces sep text ≠ [] :=
  mt List.map_eq_nil_iff.mp (cut_ne_nil sep text.toList)

theorem mem_of_mem_pieces {text piece : String} (member : piece ∈ pieces sep text) {c : Char}
    (inside : c ∈ piece.toList) : c ∈ text.toList := by
  obtain ⟨letters, cutOut, rfl⟩ := List.mem_map.mp member
  rw [String.toList_ofList] at inside
  exact (ne_and_mem_of_mem_cut cutOut inside).2

theorem not_mem_of_mem_pieces {text piece : String} (member : piece ∈ pieces sep text) :
    sep ∉ piece.toList := by
  obtain ⟨letters, cutOut, rfl⟩ := List.mem_map.mp member
  rw [String.toList_ofList]
  exact not_mem_of_mem_cut cutOut

/-- Whether a text can be a segment of a path. -/
def IsSegment (text : String) : Prop := text ≠ "" ∧ '/' ∉ text.toList

instance : DecidablePred IsSegment := fun _ => inferInstanceAs (Decidable (_ ∧ _))

theorem isSegment_of_mem_segments {path segment : String} (member : segment ∈ segments path) :
    IsSegment segment := by
  obtain ⟨cutOut, filled⟩ := List.mem_filter.mp member
  exact ⟨of_decide_eq_true filled, not_mem_of_mem_pieces cutOut⟩

theorem IsSegment.segments_eq {text : String} (segment : IsSegment text) : segments text = [text] := by
  simp [segments, pieces, cut_of_not_mem segment.2, segment.1]

theorem toList_join_singleton (sep : Char) (texts : List String) :
    (join (String.singleton sep) texts).toList = glue sep (texts.map String.toList) := by
  induction texts with
  | nil => rfl
  | cons first rest ih =>
    cases rest with
    | nil => rfl
    | cons second rest => simpa [join, glue] using ih

/-- Texts without the separator are the pieces of what they make up together. -/
theorem pieces_join {texts : List String} (nonempty : texts ≠ [])
    (free : ∀ text ∈ texts, sep ∉ text.toList) :
    pieces sep (join (String.singleton sep) texts) = texts := by
  have parts : texts.map String.toList ≠ [] := mt List.map_eq_nil_iff.mp nonempty
  have whole : (texts.map String.toList).flatMap (cut sep) = texts.map String.toList := by
    rw [List.flatMap_congr (g := fun piece => [piece]), List.flatMap_singleton']
    exact List.forall_mem_map.mpr fun text member => cut_of_not_mem (free text member)
  rw [pieces, toList_join_singleton, cut_glue parts, whole, List.map_map]
  simp [Function.comp_def]

theorem toList_join (texts : List String) :
    (join "/" texts).toList = glue '/' (texts.map String.toList) :=
  toList_join_singleton '/' texts

theorem join_pieces (text : String) : join "/" (pieces '/' text) = text := by
  rw [← String.toList_inj, toList_join, pieces, List.map_map]
  simpa [Function.comp_def] using glue_cut '/' text.toList

/-- The segments of texts that are joined together are those of each of them. -/
theorem segments_join (texts : List String) : segments (join "/" texts) = texts.flatMap segments := by
  by_cases empty : texts = []
  · subst empty
    rfl
  · have parts : texts.map String.toList ≠ [] := mt List.map_eq_nil_iff.mp empty
    simp only [segments, pieces, toList_join, cut_glue parts, List.flatMap_map, List.map_flatMap,
      List.filter_flatMap]
    rfl

theorem segments_join_of_isSegment {texts : List String} (proper : ∀ text ∈ texts, IsSegment text) :
    segments (join "/" texts) = texts := by
  rw [segments_join, List.flatMap_congr fun text member => (proper text member).segments_eq,
    List.flatMap_singleton']

theorem exists_slash {text : String} (opens : opensWith '/' text = true) :
    ∃ body, text = "/" ++ body := by
  obtain ⟨rest, letters⟩ := List.head?_eq_some_iff.mp (beq_iff_eq.mp opens)
  exact ⟨String.ofList rest, String.toList_inj.mp (by simp [letters])⟩

@[simp] theorem opensWith_slash (body : String) : opensWith '/' ("/" ++ body) = true := by
  simp [opensWith]

@[simp] theorem dropOpening_slash (body : String) : dropOpening '/' ("/" ++ body) = body := by
  simp [dropOpening]

@[simp] theorem segments_slash (body : String) : segments ("/" ++ body) = segments body := by
  simp [segments, pieces, cut]

/-- Texts that are joined together end with a slash if the last one is empty and not alone. -/
theorem closesWith_join_concat {front : List String} {last : String} (free : '/' ∉ last.toList) :
    closesWith '/' (join "/" (front ++ [last])) = true ↔ front ≠ [] ∧ last = "" := by
  have unclosed : last.toList.getLast? ≠ some '/' := mt List.mem_of_getLast? free
  rw [closesWith, beq_iff_eq, toList_join, List.map_append, List.map_singleton]
  by_cases alone : front = []
  · simpa [alone, glue] using unclosed
  · rw [glue_concat (mt List.map_eq_nil_iff.mp alone), List.getLast?_append_cons]
    cases letters : last.toList with
    | nil => simp [alone, String.toList_eq_nil_iff.mp letters]
    | cons c rest =>
      have filled : last ≠ "" := by
        rintro rfl
        cases letters
      rw [letters] at unclosed
      simpa [filled] using unclosed

end RouteProbe.Text
