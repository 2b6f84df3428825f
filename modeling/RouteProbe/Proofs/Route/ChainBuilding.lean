import Mathlib.Data.List.Perm.Basic
import RouteProbe.Proofs.Lookup.PolicyErrors

/-! # Building chains

A chain is built from a handler by adding interceptors in front and behind. Main statement: those
that were added in front stand in the opposite order of their adding before those that were added
behind, and the first of all these that is a source of policies decides on the policy by itself,
whatever stands behind it. The handler matters only if none of them is a source.
-/

namespace RouteProbe

/-- One step of the building of a chain. -/
inductive ChainAddition
  | append (interceptor : Interceptor)
  | appendAll (interceptors : List Interceptor)
  | prepend (interceptor : Interceptor)

namespace ChainAddition

/-- Adds to a chain. -/
def apply (chain : Chain) : ChainAddition → Chain
  | append interceptor => chain.append interceptor
  | appendAll interceptors => chain.appendAll interceptors
  | prepend interceptor => chain.prepend interceptor

/-- What is added. -/
def given : ChainAddition → List Interceptor
  | append interceptor => [interceptor]
  | appendAll interceptors => interceptors
  | prepend interceptor => [interceptor]

/-- What is added in front of all others. -/
def inFront : ChainAddition → List Interceptor
  | prepend interceptor => [interceptor]
  | _ => []

/-- What is added behind all others. -/
def behind : ChainAddition → List Interceptor
  | prepend _ => []
  | addition => addition.given

theorem handler_apply (chain : Chain) (addition : ChainAddition) :
    (addition.apply chain).handler = chain.handler := by
  cases addition <;> rfl

theorem interceptors_apply (chain : Chain) (addition : ChainAddition) :
    (addition.apply chain).interceptors =
      addition.inFront ++ chain.interceptors ++ addition.behind := by
  cases addition <;> simp [apply, inFront, behind, given, Chain.append, Chain.appendAll, Chain.prepend]

/-- At most one interceptor is added in front at a time. -/
theorem reverse_inFront (addition : ChainAddition) : addition.inFront.reverse = addition.inFront := by
  cases addition <;> rfl

theorem inFront_append_behind (addition : ChainAddition) :
    addition.inFront ++ addition.behind = addition.given := by
  cases addition <;> rfl

end ChainAddition

namespace Chain

/-- The chain of a handler after additions, one after another. -/
def build (handler : Handler) (additions : List ChainAddition) : Chain :=
  additions.foldl ChainAddition.apply ⟨handler, []⟩

theorem foldl_apply (additions : List ChainAddition) (chain : Chain) :
    additions.foldl ChainAddition.apply chain =
      ⟨chain.handler, (additions.flatMap ChainAddition.inFront).reverse ++ chain.interceptors ++
        additions.flatMap ChainAddition.behind⟩ := by
  induction additions generalizing chain with
  | nil => simp
  | cons addition rest ih =>
    rw [List.foldl_cons, ih, addition.handler_apply, addition.interceptors_apply]
    simp [addition.reverse_inFront]

variable (handler : Handler) (additions : List ChainAddition)

theorem handler_build : (build handler additions).handler = handler := by
  rw [build, foldl_apply]

theorem interceptors_build :
    (build handler additions).interceptors =
      (additions.flatMap ChainAddition.inFront).reverse ++
        additions.flatMap ChainAddition.behind := by
  rw [build, foldl_apply, List.append_nil]

theorem interceptors_build_perm :
    (build handler additions).interceptors.Perm (additions.flatMap ChainAddition.given) := by
  have together : (fun addition : ChainAddition => addition.inFront ++ addition.behind) =
      ChainAddition.given := funext ChainAddition.inFront_append_behind
  rw [interceptors_build, ← together]
  exact ((List.reverse_perm _).append_right _).trans (List.flatMap_append_perm ..)

theorem corsPolicy_of_decidedBy {chain : Chain} {source : CorsSource}
    (decided : chain.DecidedBy source) (request : Request) :
    chain.corsPolicy request = source request := by
  rw [corsPolicy, corsSource?_eq_some_iff.mpr decided]

theorem corsPolicy_of_incapable {chain : Chain}
    (incapable : ∀ interceptor ∈ chain.interceptors, interceptor.cors = none) (request : Request) :
    chain.corsPolicy request =
      chain.handler.cors.elim (.ok none) fun source => source request := by
  rw [corsPolicy, corsSource?, List.findSome?_eq_none_iff.mpr incapable, Option.none_or]
  cases chain.handler.cors <;> rfl

/-- However a chain is built, its interceptors are all that were added, those in front in the
opposite order of their adding and then those behind in the order of theirs. The first of them that
is a source of policies decides, and its answer does not depend on what stands behind it or on the
handler; the source of the handler, if it has one, decides if none of them is a source. -/
theorem build_decides :
    let chain := build handler additions
    chain.handler = handler ∧
    chain.interceptors =
      (additions.flatMap ChainAddition.inFront).reverse ++
        additions.flatMap ChainAddition.behind ∧
    chain.interceptors.Perm (additions.flatMap ChainAddition.given) ∧
    (∀ before decider after source, chain.interceptors = before ++ decider :: after →
      (∀ earlier ∈ before, earlier.cors = none) → decider.cors = some source →
      ∀ request, chain.corsPolicy request = source request ∧
        ∀ others other, Chain.corsPolicy ⟨other, before ++ decider :: others⟩ request =
          source request) ∧
    ((∀ interceptor ∈ chain.interceptors, interceptor.cors = none) →
      ∀ request, chain.corsPolicy request =
        handler.cors.elim (.ok none) fun source => source request) := by
  refine ⟨handler_build handler additions, interceptors_build handler additions,
    interceptors_build_perm handler additions, ?capable, ?incapable⟩
  case capable =>
    intro before decider after source divided incapable found request
    refine ⟨corsPolicy_of_decidedBy (.interceptor divided incapable found) request, ?_⟩
    intro others other
    exact corsPolicy_of_decidedBy (.interceptor rfl incapable found) request
  case incapable =>
    intro incapable request
    rw [corsPolicy_of_incapable incapable, handler_build]

section

private abbrev plainHandler : Handler := .operation "listPets" (some {})

private abbrev openInterceptor : Interceptor := .ofPolicy { origins := .any }

/-- An interceptor whose source fails. -/
private abbrev strictInterceptor : Interceptor :=
  ⟨"strict", some fun _ => .error (.invalidPath "/pets" "no policy file")⟩

/-- Interceptors are added at both ends in turn, and two of them are sources. -/
private abbrev mixedAdditions : List ChainAddition :=
  [.append openInterceptor, .prepend strictInterceptor, .appendAll [⟨"audit", none⟩, ⟨"log", none⟩],
    .prepend ⟨"trace", none⟩]

/-- The source that fails has come to stand first, and it decides. Without sources among the
interceptors the handler's policy is found. -/
theorem build_decides_strict :
    (build plainHandler mixedAdditions).interceptors.map (·.name) =
        ["trace", "strict", "cors", "audit", "log"] ∧
      (∀ request, (build plainHandler mixedAdditions).corsPolicy request =
        .error (.invalidPath "/pets" "no policy file")) ∧
      ∀ request, (build plainHandler [.prepend ⟨"trace", none⟩]).corsPolicy request =
        .ok (some {}) := by
  have mixed := build_decides plainHandler mixedAdditions
  have plain := build_decides plainHandler [.prepend ⟨"trace", none⟩]
  refine ⟨by rw [mixed.2.1]; rfl, ?strict, ?fallback⟩
  case strict =>
    intro request
    have divided : (build plainHandler mixedAdditions).interceptors =
        [⟨"trace", none⟩] ++ strictInterceptor ::
          [openInterceptor, ⟨"audit", none⟩, ⟨"log", none⟩] := rfl
    exact (mixed.2.2.2.1 _ _ _ _ divided (by simp) rfl request).1
  case fallback =>
    intro request
    have incapable : ∀ interceptor ∈ (build plainHandler [.prepend ⟨"trace", none⟩]).interceptors,
        interceptor.cors = none := by simp [build, ChainAddition.apply, prepend]
    exact plain.2.2.2.2 incapable request

end

end Chain

end RouteProbe
