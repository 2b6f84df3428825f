import Mathlib.Data.List.Basic
import Mathlib.Data.List.TakeWhile
import RouteProbe.Path.Lookup
import RouteProbe.Proofs.Text.Pieces

/-! # Normal forms of paths

The normal form of a path has the segments that are left without their parameters, each behind a
slash, and the slash at the end that the path has. On a path that begins with a slash and has no
parameters nothing happens but that repeated slashes are collapsed
(`normalizeLookupPath_eq_collapseSlashes`).
-/

namespace RouteProbe

section Segments

theorem segments_eq (path : String) :
    Text.segments path = ((Text.cut '/' path.toList).filter (· ≠ [])).map String.ofList := by
  simp only [Text.segments, Text.pieces, List.filter_map]
  congr 1
  refine List.filter_congr fun piece _ => ?_
  simp

/-- The segments of a path that its normal form keeps, without their parameters. -/
def keptSegments (path : String) : List (List Char) :=
  ((Text.cut '/' path.toList).map withoutParameters).filter (· ≠ [])

variable {path : String}

theorem ne_nil_of_mem_keptSegments {segment : List Char} (kept : segment ∈ keptSegments path) :
    segment ≠ [] := by
  simpa using (List.mem_filter.mp kept).2

theorem not_mem_of_mem_keptSegments {segment : List Char} (kept : segment ∈ keptSegments path) :
    '/' ∉ segment := by
  obtain ⟨piece, member, rfl⟩ := List.mem_map.mp (List.mem_filter.mp kept).1
  exact fun inside => Text.not_mem_of_mem_cut member ((List.takeWhile_prefix _).subset inside)

theorem toList_normalizeLookupPath (path : String) :
    (normalizeLookupPath path).toList =
      if keptSegments path = [] then ['/']
      else (keptSegments path).flatMap ('/' :: ·) ++
        if path.toList.length > 1 ∧ path.toList.getLast? = some '/' then ['/'] else [] := by
  change (if (keptSegments path).flatMap ('/' :: ·) = [] then "/" else String.ofList
    (if (path.toList.length > 1 && path.toList.getLast? == some '/') = true
      then (keptSegments path).flatMap ('/' :: ·) ++ ['/']
      else (keptSegments path).flatMap ('/' :: ·))).toList = _
  have empty : (keptSegments path).flatMap ('/' :: ·) = [] ↔ keptSegments path = [] := by
    cases keptSegments path <;> simp
  simp only [empty, Bool.and_eq_true, decide_eq_true_eq, beq_iff_eq]
  split
  next => rfl
  next =>
    rw [String.toList_ofList]
    split
    next => rfl
    next => rw [List.append_nil]

/-- The segments of the normal form are those that are kept. -/
theorem segments_normalizeLookupPath (path : String) :
    Text.segments (normalizeLookupPath path) = (keptSegments path).map String.ofList := by
  have cutting : Text.cut '/' ((keptSegments path).flatMap ('/' :: ·)) = [] :: keptSegments path :=
    Text.cut_flatMap fun _ => not_mem_of_mem_keptSegments
  have whole : (keptSegments path).filter (fun segment => !decide (segment = [])) =
      keptSegments path :=
    List.filter_eq_self.mpr fun _ kept => by simpa using ne_nil_of_mem_keptSegments kept
  rw [segments_eq, toList_normalizeLookupPath]
  split
  next empty => rw [empty]; rfl
  next =>
    split
    next => rw [Text.cut_append_cons, cutting]; simp [Text.cut, whole]
    next => rw [List.append_nil, cutting]; simp [whole]

/-- Every normal form begins with a slash. -/
theorem exists_toList_normalizeLookupPath (path : String) :
    ∃ rest, (normalizeLookupPath path).toList = '/' :: rest := by
  rw [toList_normalizeLookupPath]
  cases keptSegments path with
  | nil => exact ⟨[], rfl⟩
  | cons first rest => exact ⟨_, rfl⟩

end Segments

/-- A text with every slash left out that follows another one. -/
def collapseChars : List Char → List Char
  | [] => []
  | [c] => [c]
  | c :: d :: rest =>
    if c = '/' ∧ d = '/' then collapseChars (d :: rest) else c :: collapseChars (d :: rest)

/-- A path with repeated slashes collapsed. -/
def collapseSlashes (path : String) : String := String.ofList (collapseChars path.toList)

section Collapse

/-- What collapsing makes of the pieces behind the first one. -/
def collapsedPieces (pieces : List (List Char)) : List Char :=
  (pieces.filter (· ≠ [])).flatMap ('/' :: ·) ++ if pieces.getLast? = some [] then ['/'] else []

theorem collapsedPieces_nil_cons {pieces : List (List Char)} (more : pieces ≠ []) :
    collapsedPieces ([] :: pieces) = collapsedPieces pieces := by
  obtain ⟨next, rest, rfl⟩ := List.exists_cons_of_ne_nil more
  simp [collapsedPieces]

theorem collapsedPieces_cons {piece : List Char} (nonempty : piece ≠ [])
    (pieces : List (List Char)) :
    collapsedPieces (piece :: pieces) = '/' :: piece ++ collapsedPieces pieces := by
  cases pieces <;> simp [collapsedPieces, nonempty]

theorem collapseChars_eq {text head : List Char} {tail : List (List Char)}
    (pieces : Text.cut '/' text = head :: tail) :
    collapseChars text = head ++ collapsedPieces tail := by
  fun_induction collapseChars text generalizing head tail with
  | case1 =>
    cases pieces
    rfl
  | case2 c =>
    by_cases slash : c = '/'
    · subst slash
      cases pieces
      rfl
    · rw [Text.cut, if_neg slash] at pieces
      cases pieces
      rfl
  | case3 c d rest both ih =>
    obtain ⟨rfl, rfl⟩ := both
    rw [Text.cut, if_pos rfl, Text.cut, if_pos rfl] at pieces
    obtain ⟨rfl, rfl⟩ := List.cons.inj pieces
    rw [ih (by rw [Text.cut, if_pos rfl]), collapsedPieces_nil_cons (Text.cut_ne_nil _ _)]
  | case4 c d rest different ih =>
    obtain ⟨next, later, nextPieces⟩ := List.exists_cons_of_ne_nil (Text.cut_ne_nil '/' (d :: rest))
    rw [ih nextPieces]
    by_cases slash : c = '/'
    · subst slash
      rw [Text.cut, if_pos rfl, nextPieces] at pieces
      obtain ⟨rfl, rfl⟩ := List.cons.inj pieces
      have apart : d ≠ '/' := fun same => different ⟨rfl, same⟩
      obtain ⟨letters, _, _, extended⟩ := Text.exists_cut_cons apart rest
      obtain ⟨rfl, rfl⟩ := List.cons.inj (nextPieces.symm.trans extended)
      rw [collapsedPieces_cons (List.cons_ne_nil d letters)]
      rfl
    · rw [Text.cut, if_neg slash, nextPieces] at pieces
      obtain ⟨rfl, rfl⟩ := List.cons.inj pieces
      rfl

/-- The last character stays. -/
theorem getLast?_collapseChars (text : List Char) :
    (collapseChars text).getLast? = text.getLast? := by
  fun_induction collapseChars text with
  | case1 => rfl
  | case2 => rfl
  | case3 c d rest _ ih => rw [ih, List.getLast?_cons_cons]
  | case4 c d rest _ ih =>
    rw [List.getLast?_cons, ih, ← List.getLast?_cons]

theorem mem_collapseChars {text : List Char} {c : Char} (other : c ≠ '/') :
    c ∈ collapseChars text ↔ c ∈ text := by
  fun_induction collapseChars text with
  | case1 => rfl
  | case2 => rfl
  | case3 first second rest both ih =>
    obtain ⟨rfl, rfl⟩ := both
    rw [ih, List.mem_cons (b := '/') (l := '/' :: rest), or_iff_right other]
  | case4 first second rest _ ih => rw [List.mem_cons, ih, ← List.mem_cons]

end Collapse

section Plain

variable {path : String} {rest : List Char}

theorem keptSegments_of_plain (plain : ';' ∉ path.toList) :
    keptSegments path = (Text.cut '/' path.toList).filter (· ≠ []) := by
  have bare : (Text.cut '/' path.toList).map withoutParameters = Text.cut '/' path.toList := by
    rw [← List.map_id (Text.cut '/' path.toList), List.map_map]
    refine List.map_congr_left fun piece member => List.takeWhile_eq_self_iff.mpr ?_
    intro c inside
    have listed := (Text.ne_and_mem_of_mem_cut member inside).2
    exact bne_iff_ne.mpr fun same => plain (same ▸ listed)
  rw [keptSegments, bare]

theorem getLast?_flatMap_ne {pieces : List (List Char)} (nonempty : ∀ piece ∈ pieces, piece ≠ [])
    (free : ∀ piece ∈ pieces, '/' ∉ piece) :
    (pieces.flatMap ('/' :: ·)).getLast? ≠ some '/' := by
  rcases List.eq_nil_or_concat pieces with rfl | ⟨earlier, last, rfl⟩
  · simp
  · rw [List.concat_eq_append] at nonempty free ⊢
    obtain ⟨_, filled⟩ := List.forall_mem_append.mp nonempty
    obtain ⟨_, spared⟩ := List.forall_mem_append.mp free
    have filled := filled last (List.mem_singleton_self last)
    have spared := spared last (List.mem_singleton_self last)
    intro closes
    rw [List.flatMap_append, List.flatMap_singleton, List.getLast?_append_cons] at closes
    obtain ⟨next, later, rfl⟩ := List.exists_cons_of_ne_nil filled
    rw [List.getLast?_cons_cons] at closes
    exact spared (List.mem_of_getLast? closes)

/-- The pieces of which a path with certain segments, and with or without a slash at its end, is
made up. -/
theorem filter_cut_flatMap {pieces : List (List Char)} (filled : ∀ piece ∈ pieces, piece ≠ [])
    (free : ∀ piece ∈ pieces, '/' ∉ piece) (trailing : Bool) :
    (Text.cut '/' (pieces.flatMap ('/' :: ·) ++ if trailing then ['/'] else [])).filter (· ≠ []) =
      pieces := by
  have whole : pieces.filter (fun piece => !decide (piece = [])) = pieces :=
    List.filter_eq_self.mpr fun piece member => by simpa using filled piece member
  cases trailing with
  | false => simp [Text.cut_flatMap free, whole]
  | true => simp [Text.cut_append_cons, Text.cut_flatMap free, Text.cut, whole]

theorem closesWith_flatMap {pieces : List (List Char)} (filled : ∀ piece ∈ pieces, piece ≠ [])
    (free : ∀ piece ∈ pieces, '/' ∉ piece) (trailing : Bool) :
    ((pieces.flatMap ('/' :: ·) ++ if trailing then ['/'] else []).getLast? == some '/') =
      trailing := by
  cases trailing with
  | false => simpa using getLast?_flatMap_ne filled free
  | true => simp

theorem normalizeLookupPath_eq_collapseSlashes (opens : path.toList = '/' :: rest)
    (plain : ';' ∉ path.toList) : normalizeLookupPath path = collapseSlashes path := by
  have pieces : Text.cut '/' path.toList = [] :: Text.cut '/' rest := by
    rw [opens, Text.cut, if_pos rfl]
  have kept : keptSegments path = (Text.cut '/' rest).filter (· ≠ []) := by
    rw [keptSegments_of_plain plain, pieces]
    rfl
  have collapsed := collapseChars_eq pieces
  rw [List.nil_append, collapsedPieces, ← kept] at collapsed
  apply String.toList_inj.mp
  rw [toList_normalizeLookupPath, collapseSlashes, String.toList_ofList, collapsed]
  split
  next empty =>
    -- A path without segments is made up of slashes, and its last piece is empty.
    obtain ⟨first, others, same⟩ := List.exists_cons_of_ne_nil (Text.cut_ne_nil '/' rest)
    have last := List.getLast?_eq_some_getLast (Text.cut_ne_nil '/' rest)
    have bare : (Text.cut '/' rest).getLast (Text.cut_ne_nil '/' rest) = [] := by
      by_contra filled
      have survives : (Text.cut '/' rest).getLast (Text.cut_ne_nil '/' rest) ∈ keptSegments path := by
        rw [kept]
        exact List.mem_filter.mpr ⟨List.getLast_mem _, by simpa using filled⟩
      rw [empty] at survives
      contradiction
    rw [empty, last, bare]
    rfl
  next nonempty =>
    have unclosed : ((keptSegments path).flatMap ('/' :: ·)).getLast? ≠ some '/' :=
      getLast?_flatMap_ne (fun _ => ne_nil_of_mem_keptSegments)
        (fun _ => not_mem_of_mem_keptSegments)
    have longer : path.toList.length > 1 := by
      rw [opens]
      cases rest with
      | nil => exact absurd kept nonempty
      | cons => simp
    have last := getLast?_collapseChars path.toList
    rw [collapsed] at last
    by_cases closed : (Text.cut '/' rest).getLast? = some []
    · rw [if_pos closed, List.getLast?_concat] at last
      rw [if_pos closed, if_pos ⟨longer, last.symm⟩]
    · rw [if_neg closed, List.append_nil] at last
      rw [if_neg closed, if_neg fun both => unclosed (last.trans both.2)]

end Plain

/-- A path that looks the same to every pattern in its normal form: it has no parameters, and it is
a single slash or does not consist of slashes alone. -/
structure IsOrdinary (path : String) : Prop where
  plain : ';' ∉ path.toList
  single_or_filled : path = "/" ∨ ∃ c ∈ path.toList, c ≠ '/'

namespace IsOrdinary

variable {path : String} (ordinary : IsOrdinary path)

include ordinary

theorem segments_normalizeLookupPath :
    Text.segments (normalizeLookupPath path) = Text.segments path := by
  rw [RouteProbe.segments_normalizeLookupPath, keptSegments_of_plain ordinary.plain, segments_eq]

/-- A trailing slash, the first one apart, stays. -/
theorem closesWith_normalizeLookupPath {rest : List Char} (opens : path.toList = '/' :: rest) :
    Text.closesWith '/' (Text.dropOpening '/' (normalizeLookupPath path)) =
      Text.closesWith '/' (Text.dropOpening '/' path) := by
  rcases ordinary.single_or_filled with rfl | ⟨c, inside, other⟩
  · rfl
  have collapsed := congrArg String.toList (normalizeLookupPath_eq_collapseSlashes opens ordinary.plain)
  rw [collapseSlashes, String.toList_ofList] at collapsed
  obtain ⟨rest', normal⟩ := exists_toList_normalizeLookupPath path
  have survives := (mem_collapseChars other).mpr inside
  have last := getLast?_collapseChars path.toList
  rw [← collapsed, normal] at survives last
  rw [opens] at inside last
  -- Behind the first slash something remains in both, so that their last characters are compared.
  obtain ⟨first, later, rfl⟩ :=
    List.exists_cons_of_ne_nil (List.ne_nil_of_mem (List.mem_of_ne_of_mem other inside))
  obtain ⟨first', later', rfl⟩ :=
    List.exists_cons_of_ne_nil (List.ne_nil_of_mem (List.mem_of_ne_of_mem other survives))
  rw [List.getLast?_cons_cons, List.getLast?_cons_cons] at last
  simp only [Text.closesWith, Text.dropOpening, opens, normal, if_true, String.toList_ofList, last]

end IsOrdinary

end RouteProbe
