import Mathlib.Data.List.Forall2
import RouteProbe.Proofs.Path.NormalForms

/-! # Canonical paths

A path is in canonical form if it begins with a slash, has no parameters and no two slashes in a
row. The normal form of a path is the canonical path with the segments that are left of it, and with
a slash at its end if the path has one. Main statement: nothing else is
(`normalizeLookupPath_eq_iff`), so that the canonical paths are those which are their own normal
forms.
-/

namespace RouteProbe

/-- Whether a text is all of another one that stands in front of the first semicolon. -/
structure IsFrontOf (front text : String) : Prop where
  plain : ';' ∉ front.toList
  whole_or_cut : front = text ∨ ∃ parameters, text = front ++ ";" ++ parameters

/-- Whether a path is written without parameters and without needless slashes. -/
structure IsCanonical (path : String) : Prop where
  opens : path.toList.head? = some '/'
  plain : ';' ∉ path.toList
  single : ¬ ['/', '/'] <:+: path.toList

/-- What the normal form of a path has to be. -/
structure IsNormalFormOf (normal path : String) : Prop where
  canonical : IsCanonical normal
  /-- The segments are what is left of those of the path without their parameters. -/
  segments : ∃ fronts, List.Forall₂ IsFrontOf fronts (Text.pieces '/' path) ∧
    Text.segments normal = fronts.filter (· ≠ "")
  root : Text.segments normal = [] → normal = "/"
  /-- Where something is left, the slash at the end is that of the path. -/
  closes : Text.segments normal ≠ [] →
    (Text.closesWith '/' normal = true ↔ Text.closesWith '/' path = true)

section Fronts

theorem isFrontOf_iff {front text : String} :
    IsFrontOf front text ↔ front.toList = withoutParameters text.toList := by
  have bare {letters : List Char} (plain : ';' ∉ letters) : withoutParameters letters = letters :=
    List.takeWhile_eq_self_iff.mpr fun c inside => bne_iff_ne.mpr fun same => plain (same ▸ inside)
  constructor
  · rintro ⟨plain, rfl | ⟨parameters, rfl⟩⟩
    · exact (bare plain).symm
    · have letters : (front ++ ";" ++ parameters).toList = front.toList ++ ';' :: parameters.toList := by
        simp
      rw [letters, withoutParameters, List.takeWhile_append_of_pos]
      · simp
      · exact fun c inside => bne_iff_ne.mpr fun same => plain (same ▸ inside)
  · intro same
    have divided := List.takeWhile_append_dropWhile (p := (· != ';')) (l := text.toList)
    refine ⟨?_, ?_⟩
    · intro inside
      rw [same] at inside
      simpa using List.mem_takeWhile_imp inside
    · change withoutParameters text.toList ++ _ = _ at divided
      rw [← same] at divided
      cases later : text.toList.dropWhile (· != ';') with
      | nil =>
        rw [later, List.append_nil] at divided
        exact .inl (String.toList_inj.mp divided)
      | cons c parameters =>
        have stops := List.head?_dropWhile_not (· != ';') text.toList
        rw [later] at stops divided
        obtain rfl : c = ';' := by simpa using stops
        refine .inr ⟨String.ofList parameters, String.toList_inj.mp ?_⟩
        simp [← divided]

theorem forall₂_isFrontOf_iff {fronts : List String} {path : String} :
    List.Forall₂ IsFrontOf fronts (Text.pieces '/' path) ↔
      fronts = (Text.cut '/' path.toList).map fun piece => String.ofList (withoutParameters piece) := by
  rw [Text.pieces, List.forall₂_map_right_iff, ← List.forall₂_eq_eq_eq, List.forall₂_map_right_iff]
  refine Eq.to_iff (congrArg (List.Forall₂ · fronts _) ?_)
  funext front piece
  rw [isFrontOf_iff, String.toList_ofList, ← String.toList_inj, String.toList_ofList]

end Fronts

section Normal

variable {path first second : String}

theorem closesWith_iff_of_kept (filled : keptSegments path ≠ []) :
    (path.toList.length > 1 ∧ path.toList.getLast? = some '/') ↔ Text.closesWith '/' path = true := by
  rw [Text.closesWith, beq_iff_eq]
  refine and_iff_right_of_imp fun closes => ?_
  obtain ⟨front, letters⟩ := List.getLast?_eq_some_iff.mp closes
  cases front with
  | nil => exact absurd (by rw [keptSegments, letters]; rfl) filled
  | cons c front => simp [letters]

theorem toList_normalizeLookupPath_of_kept (filled : keptSegments path ≠ []) :
    (normalizeLookupPath path).toList = (keptSegments path).flatMap ('/' :: ·) ++
      if Text.closesWith '/' path then ['/'] else [] := by
  simp only [toList_normalizeLookupPath, if_neg filled, closesWith_iff_of_kept filled]

theorem normalizeLookupPath_of_no_kept (empty : keptSegments path = []) :
    normalizeLookupPath path = "/" := by
  apply String.toList_inj.mp
  rw [toList_normalizeLookupPath, if_pos empty]
  rfl

theorem closesWith_normalizeLookupPath (filled : keptSegments path ≠ []) :
    Text.closesWith '/' (normalizeLookupPath path) = Text.closesWith '/' path := by
  rw [Text.closesWith, toList_normalizeLookupPath_of_kept filled]
  exact closesWith_flatMap (fun _ => ne_nil_of_mem_keptSegments)
    (fun _ => not_mem_of_mem_keptSegments) _

/-- Paths with the same segments left have the same normal form, unless only one of them ends with a
slash. -/
theorem normalizeLookupPath_eq_normalizeLookupPath_iff
    (same : keptSegments first = keptSegments second) :
    normalizeLookupPath first = normalizeLookupPath second ↔
      keptSegments first = [] ∨ Text.closesWith '/' first = Text.closesWith '/' second := by
  by_cases empty : keptSegments first = []
  · rw [normalizeLookupPath_of_no_kept empty, normalizeLookupPath_of_no_kept (same ▸ empty)]
    exact iff_of_true rfl (.inl empty)
  · rw [or_iff_right empty]
    constructor
    · intro equal
      rw [← closesWith_normalizeLookupPath empty, equal, closesWith_normalizeLookupPath (same ▸ empty)]
    · intro closes
      apply String.toList_inj.mp
      rw [toList_normalizeLookupPath_of_kept empty, toList_normalizeLookupPath_of_kept (same ▸ empty),
        same, closes]

theorem not_mem_normalizeLookupPath (path : String) : ';' ∉ (normalizeLookupPath path).toList := by
  intro inside
  rw [toList_normalizeLookupPath] at inside
  split at inside
  next => simp at inside
  next =>
    rcases List.mem_append.mp inside with within | last
    · obtain ⟨segment, kept, inside⟩ := List.mem_flatMap.mp within
      obtain ⟨piece, _, rfl⟩ := List.mem_map.mp (List.mem_filter.mp kept).1
      rcases List.mem_cons.mp inside with slash | inside
      · contradiction
      · simpa using List.mem_takeWhile_imp inside
    · split at last <;> simp at last

/-- Normalizing leaves no more to be left out. -/
theorem keptSegments_normalizeLookupPath (path : String) :
    keptSegments (normalizeLookupPath path) = keptSegments path := by
  have segments := segments_normalizeLookupPath path
  rw [segments_eq, ← keptSegments_of_plain (not_mem_normalizeLookupPath path)] at segments
  exact List.map_injective_iff.mpr (fun _ _ => String.ofList_injective) segments

theorem normalizeLookupPath_normalizeLookupPath (path : String) :
    normalizeLookupPath (normalizeLookupPath path) = normalizeLookupPath path := by
  refine (normalizeLookupPath_eq_normalizeLookupPath_iff (keptSegments_normalizeLookupPath path)).mpr ?_
  rw [keptSegments_normalizeLookupPath]
  exact or_iff_not_imp_left.mpr closesWith_normalizeLookupPath

end Normal

section Collapsed

theorem head?_collapseChars (text : List Char) : (collapseChars text).head? = text.head? := by
  fun_induction collapseChars text with
  | case1 => rfl
  | case2 => rfl
  | case3 c d rest both ih => rw [ih, List.head?_cons, List.head?_cons, both.1, both.2]
  | case4 => rfl

/-- No two slashes in a row are left. -/
theorem not_infix_collapseChars (text : List Char) : ¬ ['/', '/'] <:+: collapseChars text := by
  fun_induction collapseChars text with
  | case1 => simp
  | case2 c => simp [List.infix_cons_iff]
  | case3 c d rest both ih => exact ih
  | case4 c d rest different ih =>
    rw [List.infix_cons_iff, not_or]
    refine ⟨?_, ih⟩
    rw [List.cons_prefix_cons]
    rintro ⟨rfl, ⟨later, next⟩⟩
    have head := head?_collapseChars (d :: rest)
    rw [← next] at head
    exact different ⟨rfl, (Option.some.inj head).symm⟩

theorem collapseChars_eq_self {text : List Char} (single : ¬ ['/', '/'] <:+: text) :
    collapseChars text = text := by
  fun_induction collapseChars text with
  | case1 => rfl
  | case2 => rfl
  | case3 c d rest both _ =>
    obtain ⟨rfl, rfl⟩ := both
    exact absurd ⟨[], rest, rfl⟩ single
  | case4 c d rest _ ih => rw [ih (mt List.infix_cons single)]

end Collapsed

variable {normal path : String}

theorem isCanonical_normalizeLookupPath (path : String) :
    IsCanonical (normalizeLookupPath path) := by
  obtain ⟨rest, opens⟩ := exists_toList_normalizeLookupPath path
  have plain := not_mem_normalizeLookupPath path
  refine ⟨by rw [opens]; rfl, plain, ?_⟩
  -- What is normal is its own normal form, and has its slashes collapsed with it.
  have collapsed := normalizeLookupPath_eq_collapseSlashes opens plain
  rw [normalizeLookupPath_normalizeLookupPath] at collapsed
  rw [collapsed, collapseSlashes, String.toList_ofList]
  exact not_infix_collapseChars _

theorem IsCanonical.normalizeLookupPath_eq (canonical : IsCanonical path) :
    normalizeLookupPath path = path := by
  obtain ⟨rest, opens⟩ := List.head?_eq_some_iff.mp canonical.opens
  rw [normalizeLookupPath_eq_collapseSlashes opens canonical.plain, collapseSlashes,
    collapseChars_eq_self canonical.single, String.ofList_toList]

theorem exists_fronts_iff {segments : List String} :
    (∃ fronts, List.Forall₂ IsFrontOf fronts (Text.pieces '/' path) ∧
        segments = fronts.filter (· ≠ "")) ↔
      segments = (keptSegments path).map String.ofList := by
  simp only [forall₂_isFrontOf_iff, exists_eq_left, keptSegments, List.filter_map, List.map_map]
  refine Eq.to_iff (congrArg (segments = ·) ?_)
  congr 1
  refine List.filter_congr fun piece _ => ?_
  simp

theorem isNormalFormOf_normalizeLookupPath (path : String) :
    IsNormalFormOf (normalizeLookupPath path) path := by
  have segments := segments_normalizeLookupPath path
  refine ⟨isCanonical_normalizeLookupPath path, exists_fronts_iff.mpr segments, ?_, ?_⟩
  · intro none
    rw [segments, List.map_eq_nil_iff] at none
    exact normalizeLookupPath_of_no_kept none
  · intro some
    rw [segments, ne_eq, List.map_eq_nil_iff] at some
    rw [closesWith_normalizeLookupPath some]

/-- A path has one normal form. -/
theorem IsNormalFormOf.eq (form : IsNormalFormOf normal path) : normalizeLookupPath path = normal := by
  have segments := exists_fronts_iff.mp form.segments
  have same : keptSegments path = keptSegments normal := by
    have kept := segments
    rw [segments_eq, ← keptSegments_of_plain form.canonical.plain] at kept
    exact (List.map_injective_iff.mpr (fun _ _ => String.ofList_injective) kept).symm
  rw [← form.canonical.normalizeLookupPath_eq,
    normalizeLookupPath_eq_normalizeLookupPath_iff same, or_iff_not_imp_left]
  intro filled
  rw [Bool.eq_iff_iff]
  refine (form.closes ?_).symm
  rwa [segments, ne_eq, List.map_eq_nil_iff]

/-- Every path has exactly one normal form. It is canonical, its segments are what is left of those
of the path without their parameters, and it ends with a slash as the path does; it is a single
slash if nothing is left. Nothing is gained by normalizing twice, and the canonical paths are those
that are normal already. -/
theorem normalizeLookupPath_eq_iff (path : String) :
    (∀ normal, normalizeLookupPath path = normal ↔ IsNormalFormOf normal path) ∧
      normalizeLookupPath (normalizeLookupPath path) = normalizeLookupPath path ∧
      (normalizeLookupPath path = path ↔ IsCanonical path) := by
  refine ⟨fun normal => ⟨?_, IsNormalFormOf.eq⟩, normalizeLookupPath_normalizeLookupPath path, ?_⟩
  · rintro rfl
    exact isNormalFormOf_normalizeLookupPath path
  · refine ⟨fun same => ?_, IsCanonical.normalizeLookupPath_eq⟩
    rw [← same]
    exact isCanonical_normalizeLookupPath path

end RouteProbe
