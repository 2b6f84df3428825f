import RouteProbe.Proofs.Path.CanonicalForm
import RouteProbe.Proofs.Pattern.CaseOptions
import RouteProbe.Proofs.Route.PathModes

/-! # Parameters in paths

What stands behind a semicolon, up to the next slash, is a parameter, and ought not to matter to a
router for normal forms. It does in one place: whether a normal form ends with a slash is decided on
the path as it is written, so that parameters behind the last slash cost that slash (`LosesSlash`).
Main statement: paths that differ in nothing but parameters are routed alike exactly if they both
lose their slash or neither does (`ignoresParameters_iff`).
-/

namespace RouteProbe

/-- A text without the parameters in it, the beginning of it being part of one or not. -/
def stripChars : Bool → List Char → List Char
  | _, [] => []
  | skipping, c :: rest =>
    if c = '/' then '/' :: stripChars false rest
    else if skipping ∨ c = ';' then stripChars true rest
    else c :: stripChars false rest

/-- A path without its parameters. -/
def stripParameters (path : String) : String := String.ofList (stripChars false path.toList)

/-- Whether the normal form of a path is that of the path without its parameters. -/
def IgnoresParameters (path : String) : Prop :=
  normalizeLookupPath path = normalizeLookupPath (stripParameters path)

/-- Whether there is nothing but parameters behind the last slash of a path. -/
def EndsBare (path : String) : Prop :=
  ∃ front parameters, path.toList = front ++ '/' :: ';' :: parameters ∧ '/' ∉ parameters

/-- Whether a path has a slash at its end but for parameters, and some segment in front of it. -/
structure LosesSlash (path : String) : Prop where
  filled : Text.segments (stripParameters path) ≠ []
  bare : EndsBare path

section Strip

theorem withoutParameters_eq_nil_iff {piece : List Char} :
    withoutParameters piece = [] ↔ piece = [] ∨ ∃ parameters, piece = ';' :: parameters := by
  cases piece with
  | nil => simp [withoutParameters]
  | cons c rest => simp [withoutParameters, List.takeWhile_cons]

theorem not_mem_withoutParameters {piece : List Char} (free : '/' ∉ piece) :
    '/' ∉ withoutParameters piece :=
  fun inside => free ((List.takeWhile_prefix _).subset inside)

@[simp] theorem withoutParameters_withoutParameters (piece : List Char) :
    withoutParameters (withoutParameters piece) = withoutParameters piece := by
  simp only [withoutParameters, List.takeWhile_takeWhile, and_self, Bool.decide_eq_true]

theorem stripChars_append_cons (skipping : Bool) (front rest : List Char) :
    stripChars skipping (front ++ '/' :: rest) =
      stripChars skipping front ++ '/' :: stripChars false rest := by
  induction front generalizing skipping with
  | nil => simp [stripChars]
  | cons c front ih =>
    simp only [List.cons_append, stripChars, ih]
    split
    · rfl
    · split <;> rfl

theorem stripChars_true {piece : List Char} (free : '/' ∉ piece) : stripChars true piece = [] := by
  induction piece with
  | nil => rfl
  | cons c piece ih =>
    obtain ⟨different, later⟩ := not_or.mp (mt List.mem_cons.mpr free)
    rw [stripChars, if_neg (Ne.symm different), if_pos (.inl rfl), ih later]

theorem stripChars_false {piece : List Char} (free : '/' ∉ piece) :
    stripChars false piece = withoutParameters piece := by
  induction piece with
  | nil => rfl
  | cons c piece ih =>
    obtain ⟨different, later⟩ := not_or.mp (mt List.mem_cons.mpr free)
    rw [stripChars, if_neg (Ne.symm different), withoutParameters, List.takeWhile_cons]
    by_cases opens : c = ';'
    · rw [if_pos (.inr opens), stripChars_true later]
      simp [opens]
    · rw [if_neg (by simp [opens]), ih later]
      simp [opens, withoutParameters]

/-- A text has no slash, or it has a last one. -/
theorem not_mem_or_exists_last (text : List Char) :
    '/' ∉ text ∨ ∃ front last, text = front ++ '/' :: last ∧ '/' ∉ last := by
  by_cases slashed : '/' ∈ text
  · obtain ⟨tail, front, reversed, free⟩ :=
      List.eq_append_cons_of_mem (List.mem_reverse.mpr slashed)
    refine .inr ⟨front.reverse, tail.reverse, ?_, mt List.mem_reverse.mp free⟩
    rw [← List.reverse_reverse text, reversed]
    simp
  · exact .inl slashed

/-- The pieces of a path lose their parameters and nothing else. -/
theorem cut_stripChars (text : List Char) :
    Text.cut '/' (stripChars false text) = (Text.cut '/' text).map withoutParameters := by
  rcases not_mem_or_exists_last text with free | ⟨front, last, rfl, free⟩
  · rw [stripChars_false free, Text.cut_of_not_mem (not_mem_withoutParameters free),
      Text.cut_of_not_mem free, List.map_singleton]
  · rw [stripChars_append_cons, Text.cut_append_cons, Text.cut_append_cons, List.map_append,
      cut_stripChars front, stripChars_false free,
      Text.cut_of_not_mem (not_mem_withoutParameters free), Text.cut_of_not_mem free,
      List.map_singleton]
termination_by text.length

theorem segments_stripParameters (path : String) :
    Text.segments (stripParameters path) = (keptSegments path).map String.ofList := by
  rw [segments_eq, stripParameters, String.toList_ofList, cut_stripChars]
  rfl

theorem keptSegments_stripParameters (path : String) :
    keptSegments (stripParameters path) = keptSegments path := by
  simp only [keptSegments, stripParameters, String.toList_ofList, cut_stripChars, List.map_map,
    Function.comp_def, withoutParameters_withoutParameters]

end Strip

section Ends

variable {path first second : String}

theorem closesWith_stripParameters {front last : List Char}
    (letters : path.toList = front ++ '/' :: last) (free : '/' ∉ last) :
    Text.closesWith '/' (stripParameters path) = true ↔ withoutParameters last = [] := by
  rw [Text.closesWith, stripParameters, String.toList_ofList, beq_iff_eq, letters,
    stripChars_append_cons, stripChars_false free, List.getLast?_append_cons]
  cases kept : withoutParameters last with
  | nil => simp
  | cons c rest =>
    rw [List.getLast?_cons_cons]
    refine iff_of_false (fun closes => ?_) (List.cons_ne_nil c rest)
    exact not_mem_withoutParameters free (kept ▸ List.mem_of_getLast? closes)

theorem closesWith_stripParameters_iff :
    Text.closesWith '/' (stripParameters path) = true ↔
      Text.closesWith '/' path = true ∨ EndsBare path := by
  constructor
  · intro closes
    rcases not_mem_or_exists_last path.toList with free | ⟨front, last, letters, free⟩
    · rw [Text.closesWith, stripParameters, String.toList_ofList, stripChars_false free,
        beq_iff_eq] at closes
      exact absurd (List.mem_of_getLast? closes) (not_mem_withoutParameters free)
    · rcases withoutParameters_eq_nil_iff.mp ((closesWith_stripParameters letters free).mp closes) with
        rfl | ⟨parameters, rfl⟩
      · exact .inl (by simp [Text.closesWith, letters])
      · exact .inr ⟨front, parameters, letters, mt (List.mem_cons_of_mem _) free⟩
  · rintro (closes | ⟨front, parameters, letters, free⟩)
    · obtain ⟨front, letters⟩ := List.getLast?_eq_some_iff.mp (beq_iff_eq.mp closes)
      exact (closesWith_stripParameters letters List.not_mem_nil).mpr rfl
    · refine (closesWith_stripParameters letters ?_).mpr (withoutParameters_eq_nil_iff.mpr ?_)
      · exact List.not_mem_cons_of_ne_of_not_mem (by decide) free
      · exact .inr ⟨parameters, rfl⟩

theorem EndsBare.closesWith_eq_false (bare : EndsBare path) : Text.closesWith '/' path = false := by
  obtain ⟨front, parameters, letters, free⟩ := bare
  rw [Text.closesWith, letters, List.getLast?_append_cons, List.getLast?_cons_cons,
    beq_eq_false_iff_ne]
  intro closes
  rcases List.mem_cons.mp (List.mem_of_getLast? closes) with slash | inside
  · contradiction
  · exact free inside

theorem endsBare_iff :
    EndsBare path ↔
      Text.closesWith '/' (stripParameters path) = true ∧ Text.closesWith '/' path = false := by
  constructor
  · exact fun bare => ⟨closesWith_stripParameters_iff.mpr (.inr bare), bare.closesWith_eq_false⟩
  · rintro ⟨closes, opened⟩
    exact (closesWith_stripParameters_iff.mp closes).resolve_left (Bool.eq_false_iff.mp opened)

theorem closesWith_eq_false_of_stripParameters
    (opened : Text.closesWith '/' (stripParameters path) = false) :
    Text.closesWith '/' path = false :=
  Bool.eq_false_iff.mpr fun closes =>
    Bool.eq_false_iff.mp opened (closesWith_stripParameters_iff.mpr (.inl closes))

theorem losesSlash_iff : LosesSlash path ↔ keptSegments path ≠ [] ∧ EndsBare path := by
  have filled : Text.segments (stripParameters path) ≠ [] ↔ keptSegments path ≠ [] := by
    rw [segments_stripParameters, ne_eq, List.map_eq_nil_iff]
  exact ⟨fun loses => ⟨filled.mp loses.filled, loses.bare⟩,
    fun both => ⟨filled.mpr both.1, both.2⟩⟩

/-- Paths that differ in nothing but parameters have the same normal form, unless one of them loses
its slash and the other one does not. -/
theorem normalizeLookupPath_eq_iff_losesSlash
    (same : stripParameters first = stripParameters second) :
    normalizeLookupPath first = normalizeLookupPath second ↔
      (LosesSlash first ↔ LosesSlash second) := by
  have kept : keptSegments first = keptSegments second := by
    rw [← keptSegments_stripParameters, same, keptSegments_stripParameters]
  rw [normalizeLookupPath_eq_normalizeLookupPath_iff kept, losesSlash_iff, losesSlash_iff,
    endsBare_iff, endsBare_iff, ← kept, same, or_iff_not_imp_left]
  by_cases empty : keptSegments first = []
  · simp [empty]
  · cases closes : Text.closesWith '/' (stripParameters second) with
    | false =>
      simp [closesWith_eq_false_of_stripParameters closes,
        closesWith_eq_false_of_stripParameters (same ▸ closes)]
    | true =>
      simp only [empty, not_false_eq_true, forall_const, ne_eq, true_and]
      cases Text.closesWith '/' first <;> cases Text.closesWith '/' second <;> simp

theorem ignoresParameters_iff_not_losesSlash : IgnoresParameters path ↔ ¬ LosesSlash path := by
  rw [IgnoresParameters, losesSlash_iff, endsBare_iff, not_and,
    normalizeLookupPath_eq_normalizeLookupPath_iff (keptSegments_stripParameters path).symm,
    or_iff_not_imp_left]
  refine imp_congr_right fun _ => ?_
  cases closes : Text.closesWith '/' (stripParameters path) with
  | false => simp [closesWith_eq_false_of_stripParameters closes]
  | true => simp

end Ends

/-- Whether two requests with the same lookup path are answered and judged by that path alone. -/
structure RoutedAlike (first second : Request) (lookup : String) : Prop where
  found : first.findLookupPath = .ok lookup
  foundToo : second.findLookupPath = .ok lookup
  /-- Every router for normal forms picks the same route for both. -/
  answered : ∀ router : PatternRouter, router.mode = .resolved →
    (router.resolve first).outcome =
        .ok ((router.route? lookup).map (Route.chain router.interceptors)) ∧
      (router.resolve second).outcome =
        .ok ((router.route? lookup).map (Route.chain router.interceptors))
  /-- Having been asked, it gives the same verdict on every pattern for both. -/
  judged : ∀ router : PatternRouter, router.mode = .resolved → ∀ pattern,
    router.matchPattern (router.leave first) pattern =
      router.matchPattern (router.leave second) pattern

section Routers

variable {router : PatternRouter} {request : Request} {path : RequestPath}

theorem findLookupPath_of_split (splits : request.splitPath = .ok path) :
    request.findLookupPath = .ok (normalizeLookupPath path.within) := by
  rw [Request.findLookupPath, splits]
  rfl

theorem findPath_of_split (mode : router.mode = .resolved) (splits : request.splitPath = .ok path) :
    router.findPath request = .ok (normalizeLookupPath path.within,
      request.setAttribute AttributeName.lookupPath (.text (normalizeLookupPath path.within))) :=
  (PatternRouter.findPath_resolved_iff mode).mpr ⟨path, splits, rfl, rfl⟩

theorem requirePath_leave_of_split (mode : router.mode = .resolved)
    (splits : request.splitPath = .ok path) :
    router.requirePath (router.leave request) = .ok (normalizeLookupPath path.within) := by
  have found := findPath_of_split mode splits
  rw [PatternRouter.leave, PatternRouter.applyTo_of_findPath found, PatternRouter.requirePath, mode]
  exact Request.requireLookupPath_eq_ok_iff.mpr (Request.lookupPath?_setAttribute_lookupPath _ _)

theorem routedAlike_of_split {first second : Request} {firstPath secondPath : RequestPath}
    (firstSplits : first.splitPath = .ok firstPath) (secondSplits : second.splitPath = .ok secondPath)
    (same : normalizeLookupPath firstPath.within = normalizeLookupPath secondPath.within) :
    RoutedAlike first second (normalizeLookupPath firstPath.within) where
  found := findLookupPath_of_split firstSplits
  foundToo := same ▸ findLookupPath_of_split secondSplits
  answered := by
    intro router mode
    refine ⟨(PatternRouter.resolve_of_findPath (findPath_of_split mode firstSplits)).1, ?_⟩
    rw [same]
    exact (PatternRouter.resolve_of_findPath (findPath_of_split mode secondSplits)).1
  judged := by
    intro router mode pattern
    rw [PatternRouter.matchPattern_of_requirePath (requirePath_leave_of_split mode firstSplits),
      PatternRouter.matchPattern_of_requirePath (requirePath_leave_of_split mode secondSplits), same]

/-- A router for all paths that have a segment and no slash at the end. -/
def PatternRouter.unclosed : PatternRouter where
  name := "unclosed"
  order := 0
  mode := .resolved
  routes := [⟨⟨"/**/\x7blast\x7d", [.multi, .capture "last"], true, false, {}⟩,
    .operation "unclosed", none⟩]
  interceptors := []

theorem closesWith_dropOpening_normalizeLookupPath {path : String} (filled : keptSegments path ≠ []) :
    Text.closesWith '/' (Text.dropOpening '/' (normalizeLookupPath path)) =
      Text.closesWith '/' path := by
  have whole := toList_normalizeLookupPath_of_kept filled
  obtain ⟨first, others, kept⟩ := List.exists_cons_of_ne_nil filled
  have member : first ∈ keptSegments path := kept ▸ List.mem_cons_self
  have nonempty := ne_nil_of_mem_keptSegments member
  obtain ⟨c, letters, rfl⟩ := List.exists_cons_of_ne_nil nonempty
  obtain ⟨rest, longer⟩ : ∃ rest, (normalizeLookupPath path).toList = '/' :: c :: rest := by
    rw [whole, kept]
    exact ⟨_, rfl⟩
  rw [← closesWith_normalizeLookupPath filled]
  simp only [Text.closesWith, Text.dropOpening, longer, if_true, String.toList_ofList,
    List.getLast?_cons_cons]

/-- The double star takes all segments but the last one. -/
theorem exists_sharesOut_unclosed {segments : List String} (nonempty : segments ≠ []) :
    ∃ runs, SharesOut {} [.multi, .capture "last"] segments runs := by
  obtain ⟨front, last, rfl⟩ := segments.eq_nil_or_concat'.resolve_left nonempty
  exact ⟨_, .multi front (.one rfl .done)⟩

theorem isSome_route?_unclosed {path : String} (filled : keptSegments path ≠ []) :
    (PatternRouter.unclosed.route? (normalizeLookupPath path)).isSome = !Text.closesWith '/' path := by
  have last : RestLast [.multi, .capture "last"] := by
    refine restLast_cons.mpr ⟨by simp, restLast_cons.mpr ⟨by simp, ?_⟩⟩
    intro before name after same
    simp at same
  obtain ⟨rest, opens⟩ := exists_toList_normalizeLookupPath path
  have nonempty : Text.segments (normalizeLookupPath path) ≠ [] := by
    rw [segments_normalizeLookupPath, ne_eq, List.map_eq_nil_iff]
    exact filled
  have shared := exists_sharesOut_unclosed nonempty
  rw [Bool.eq_iff_iff, PatternRouter.route?, List.find?_isSome]
  simp only [PatternRouter.unclosed, List.mem_singleton, exists_eq_left]
  rw [PathPattern.isMatch_iff last, and_iff_left shared]
  simp only [PathPattern.fitsEnds, closesWith_dropOpening_normalizeLookupPath filled,
    Text.opensWith, opens]
  simp [PathPattern.endsOpen, PatternElement.isOpen]

theorem losesSlash_iff_of_unclosed {first second : Request} {firstPath secondPath : RequestPath}
    (firstSplits : first.splitPath = .ok firstPath) (secondSplits : second.splitPath = .ok secondPath)
    (same : stripParameters firstPath.within = stripParameters secondPath.within)
    (alike : (PatternRouter.unclosed.resolve first).outcome =
      (PatternRouter.unclosed.resolve second).outcome) :
    LosesSlash firstPath.within ↔ LosesSlash secondPath.within := by
  have kept : keptSegments firstPath.within = keptSegments secondPath.within := by
    rw [← keptSegments_stripParameters, same, keptSegments_stripParameters]
  rw [← normalizeLookupPath_eq_iff_losesSlash same,
    normalizeLookupPath_eq_normalizeLookupPath_iff kept, or_iff_not_imp_left]
  intro filled
  rw [(PatternRouter.resolve_of_findPath (findPath_of_split rfl firstSplits)).1,
    (PatternRouter.resolve_of_findPath (findPath_of_split rfl secondSplits)).1] at alike
  have picked := congrArg Option.isSome (Except.ok.inj alike)
  rw [Option.isSome_map, Option.isSome_map, isSome_route?_unclosed filled,
    isSome_route?_unclosed (kept ▸ filled)] at picked
  exact Bool.not_inj picked

end Routers

/-- A path has the normal form of the path without its parameters unless parameters cost it the
slash at its end. Of two requests whose paths within the application differ in nothing but
parameters, both are routed alike by every router for normal forms if both paths lose their slash or
neither does, and some router tells them apart otherwise. -/
theorem ignoresParameters_iff (path : String) :
    (IgnoresParameters path ↔ ¬ LosesSlash path) ∧
    ∀ (first second : Request) (context otherContext other : String),
      first.splitPath = .ok ⟨context, path⟩ → second.splitPath = .ok ⟨otherContext, other⟩ →
      stripParameters path = stripParameters other →
      ((LosesSlash path ↔ LosesSlash other) → ∃ lookup, RoutedAlike first second lookup) ∧
      ((∀ router : PatternRouter, router.mode = .resolved →
          (router.resolve first).outcome = (router.resolve second).outcome) →
        (LosesSlash path ↔ LosesSlash other)) := by
  refine ⟨ignoresParameters_iff_not_losesSlash, ?_⟩
  intro first second context otherContext other firstSplits secondSplits same
  constructor
  · intro both
    have normal := (normalizeLookupPath_eq_iff_losesSlash same).mpr both
    exact ⟨_, routedAlike_of_split firstSplits secondSplits normal⟩
  · intro alike
    exact losesSlash_iff_of_unclosed firstSplits secondSplits same (alike .unclosed rfl)

section

private abbrev cartRequest (path : String) : Request where
  uri := ⟨none, none, path, none⟩
  contextPath := "/shop"

/-- Parameters inside a path are all the same to every router for normal forms, also those that make
up a whole segment. Those behind the last slash are not. -/
theorem ignoresParameters_iff_carts :
    (cartRequest "/shop/carts;v=1/;w/7;id").splitPath = .ok ⟨"/shop", "/carts;v=1/;w/7;id"⟩ ∧
      (cartRequest "/shop/carts//7").splitPath = .ok ⟨"/shop", "/carts//7"⟩ ∧
      (cartRequest "/shop/carts/;id").splitPath = .ok ⟨"/shop", "/carts/;id"⟩ ∧
      (cartRequest "/shop/carts/").splitPath = .ok ⟨"/shop", "/carts/"⟩ ∧
      RoutedAlike (cartRequest "/shop/carts;v=1/;w/7;id") (cartRequest "/shop/carts//7") "/carts/7" ∧
      ¬ ∀ router : PatternRouter, router.mode = .resolved →
        (router.resolve (cartRequest "/shop/carts/;id")).outcome =
          (router.resolve (cartRequest "/shop/carts/")).outcome := by
  have unbare {path : String} (closes : Text.closesWith '/' (stripParameters path) = false) :
      ¬ LosesSlash path := fun loses =>
    Bool.false_ne_true (closes.symm.trans (closesWith_stripParameters_iff.mpr (.inr loses.bare)))
  have inner := (ignoresParameters_iff "/carts;v=1/;w/7;id").2 (cartRequest "/shop/carts;v=1/;w/7;id")
    (cartRequest "/shop/carts//7") "/shop" "/shop" "/carts//7" rfl rfl (by decide)
  have last := (ignoresParameters_iff "/carts/;id").2 (cartRequest "/shop/carts/;id")
    (cartRequest "/shop/carts/") "/shop" "/shop" "/carts/" rfl rfl (by decide)
  refine ⟨rfl, rfl, rfl, rfl, ?_, fun alike => ?_⟩
  · obtain ⟨lookup, alike⟩ := inner.1 (iff_of_false (unbare (by decide)) (unbare (by decide)))
    obtain rfl : "/carts/7" = lookup := Except.ok.inj alike.found
    exact alike
  · have loses : LosesSlash "/carts/;id" := ⟨by decide, "/carts".toList, "id".toList, rfl, by decide⟩
    obtain ⟨front, parameters, letters, _⟩ := ((last.2 alike).mp loses).bare
    have absent : ';' ∉ "/carts/".toList := by decide
    exact absent (by rw [letters]; simp)

/-- The slash at the end is lost with the parameters behind it. -/
theorem ignoresParameters_not_session : ¬ IgnoresParameters "/carts/;jsessionid=7" := by
  unfold IgnoresParameters
  decide

end

end RouteProbe
