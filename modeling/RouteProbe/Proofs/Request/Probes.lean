import RouteProbe.Proofs.Request.RestoredAttributes
import RouteProbe.Proofs.Route.PatternRouters

/-! # How probes look

Gathering the attributes of a request name by name loses none of them and adds none
(`IsolatedRequest.gather_eq`). Hence all that a probe ever shows of its own, as long as pattern
routers are asked about it, are the suppression of logging and the two paths (`Request.IsProbedAs`).
-/

namespace RouteProbe

namespace IsolatedRequest

/-- Gathering what a request has under one name. -/
private def gatherOne (request : Request) (gathered : Attributes) (name : String) : Attributes :=
  match request.attribute? name with
  | some value => gathered.insert name value
  | none => gathered

private theorem get?_gatherOne (request : Request) (gathered : Attributes) (name sought : String) :
    (gatherOne request gathered name).get? sought =
      if sought = name then (request.attribute? sought).or (gathered.get? sought)
      else gathered.get? sought := by
  by_cases same : sought = name
  · subst same
    cases found : request.attribute? sought <;> simp [gatherOne, found]
  · rw [if_neg same, gatherOne]
    cases request.attribute? name with
    | none => rfl
    | some value => exact gathered.get?_insert_of_ne same value

private theorem get?_foldl_gatherOne (request : Request) (names : List String)
    (gathered : Attributes) (sought : String) :
    (names.foldl (gatherOne request) gathered).get? sought =
      if sought ∈ names then (request.attribute? sought).or (gathered.get? sought)
      else gathered.get? sought := by
  induction names generalizing gathered with
  | nil => simp
  | cons name rest ih =>
    rw [List.foldl_cons, ih, get?_gatherOne]
    by_cases same : sought = name
    · subst same
      cases found : request.attribute? sought <;> simp
    · simp only [List.mem_cons, same, if_false, false_or]

theorem gather_eq (request : Request) : gather request = request.attributes := by
  have folded : gather request = request.attributeNames.foldl (gatherOne request) .empty := rfl
  apply NameMap.ext_get?
  intro sought
  rw [folded, get?_foldl_gatherOne]
  split
  · rw [NameMap.get?_empty, Option.or_none, Request.attribute?]
  next unlisted => exact (NameMap.get?_of_not_mem_names unlisted).symm

end IsolatedRequest

namespace Request

/-- How a request is seen by those who are asked about it: as it is, but perhaps with the
suppression of logging, with its path split, and with no lookup path but the normal form. -/
structure IsProbedAs (request : Request) (suppressed : Bool) (path : RequestPath) (probe : Request) :
    Prop where
  parts : { probe with attributes := request.attributes } = request
  others : ∀ name, name ≠ AttributeName.suppressLogging → name ≠ AttributeName.parsedPath →
    name ≠ AttributeName.lookupPath → probe.attribute? name = request.attribute? name
  suppression : probe.attribute? AttributeName.suppressLogging =
    if suppressed then some (.flag true) else request.attribute? AttributeName.suppressLogging
  split : probe.attribute? AttributeName.parsedPath = request.attribute? AttributeName.parsedPath ∨
    probe.attribute? AttributeName.parsedPath = some (.requestPath path)
  normalForm : probe.attribute? AttributeName.lookupPath = none ∨
    probe.attribute? AttributeName.lookupPath = some (.text (normalizeLookupPath path.within))

/-- The attributes of a probe before anybody is asked. -/
theorem attribute?_probe (request : Request) (suppressed : Bool) (name : String) :
    (request.probe suppressed).attribute? name =
      if name = AttributeName.lookupPath then none
      else if suppressed = true ∧ name = AttributeName.suppressLogging then some (.flag true)
      else request.attribute? name := by
  split
  next same => rw [same, attribute?_probe_lookupPath]
  next different =>
    simp only [probe, removeAttribute, attribute?, IsolatedRequest.of, IsolatedRequest.toRequest,
      IsolatedRequest.gather_eq]
    rw [NameMap.get?_erase_of_ne _ different]
    cases suppressed with
    | false => simp
    | true =>
      by_cases same : name = AttributeName.suppressLogging
      · simp [same]
      · simp [same, NameMap.get?_insert_of_ne]

theorem isProbedAs_probe (request : Request) (suppressed : Bool) (path : RequestPath) :
    request.IsProbedAs suppressed path (request.probe suppressed) where
  parts := rfl
  others := by
    intro name loud _ different
    rw [attribute?_probe, if_neg different, if_neg fun both => loud both.2]
  suppression := by
    rw [attribute?_probe, if_neg (by decide)]
    simp
  split := by
    left
    rw [attribute?_probe, if_neg (by decide), if_neg fun both => absurd both.2 (by decide)]
  normalForm := .inl (attribute?_probe_lookupPath request suppressed)

namespace IsProbedAs

variable {request probe after : Request} {suppressed : Bool} {path : RequestPath}
  (probed : request.IsProbedAs suppressed path probe)

include probed

theorem path_eq : probe.path = request.path := by
  have same := congrArg Request.path probed.parts
  exact same

theorem splitPath_eq : probe.splitPath = request.splitPath := by
  have same := congrArg Request.splitPath probed.parts
  exact same

/-- Splitting the path shows on the probe as it should. -/
theorem setParsedPath :
    request.IsProbedAs suppressed path
      (probe.setAttribute AttributeName.parsedPath (.requestPath path)) where
  parts := probed.parts
  others := by
    intro name loud different other
    rw [attribute?_setAttribute_of_ne _ different]
    exact probed.others name loud different other
  suppression := by
    rw [attribute?_setAttribute_of_ne _ (by decide)]
    exact probed.suppression
  split := .inr (attribute?_setAttribute_self _ _ _)
  normalForm := by
    rw [attribute?_setAttribute_of_ne _ parsedPath_ne_lookupPath.symm]
    exact probed.normalForm

/-- So does finding the normal form. -/
theorem setLookupPath :
    request.IsProbedAs suppressed path
      (probe.setAttribute AttributeName.lookupPath (.text (normalizeLookupPath path.within))) where
  parts := probed.parts
  others := by
    intro name loud other different
    rw [attribute?_setAttribute_of_ne _ different]
    exact probed.others name loud other different
  suppression := by
    rw [attribute?_setAttribute_of_ne _ (by decide)]
    exact probed.suppression
  split := by
    rw [attribute?_setAttribute_of_ne _ parsedPath_ne_lookupPath]
    exact probed.split
  normalForm := .inr (attribute?_setAttribute_self _ _ _)

/-- A pattern router that has found its path leaves no more than that on the probe. -/
theorem findPath {pattern : PatternRouter} {text : String} (splits : request.splitPath = .ok path)
    (found : pattern.findPath probe = .ok (text, after)) : request.IsProbedAs suppressed path after := by
  cases mode : pattern.mode with
  | parsed options =>
    obtain ⟨_, _, _, rfl⟩ := (PatternRouter.findPath_parsed_iff mode).mp found
    exact probed
  | resolved =>
    obtain ⟨split, again, rfl, rfl⟩ := (PatternRouter.findPath_resolved_iff mode).mp found
    rw [probed.splitPath_eq] at again
    obtain rfl : path = split := Except.ok.inj (splits.symm.trans again)
    exact probed.setLookupPath

end IsProbedAs

end Request

end RouteProbe
