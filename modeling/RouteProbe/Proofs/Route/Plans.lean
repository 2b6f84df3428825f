import RouteProbe.Proofs.Pattern.Acceptance
import RouteProbe.Route.PatternRouter

/-! # Building pattern routers

A pattern router is built from a plan exactly if the full pattern of every route of the plan is
accepted (`RouterPlan.exists_build_eq_ok_iff`); otherwise the first route whose pattern is refused
decides the error (`RouterPlan.build_eq_error_iff`). Main statement: which patterns are accepted,
what is read from them, and why the others are refused.
-/

namespace RouteProbe

section Route

variable {options : PatternOptions} {planned : RoutePlan}

theorem RoutePlan.build_eq_ok_iff {route : Route} :
    planned.build options = .ok route ↔
      ∃ pattern, PathPattern.parse options (fullPattern planned.pattern) = .ok pattern ∧
        ⟨pattern, planned.handler, planned.cors⟩ = route := by
  rw [build, bind_eq_ok_iff]
  simp only [pure_eq_ok_iff]

theorem RoutePlan.exists_build_eq_ok_iff :
    (∃ route, planned.build options = .ok route) ↔
      PathPattern.IsPattern options (fullPattern planned.pattern) := by
  simp only [build_eq_ok_iff, ← PathPattern.exists_parse_eq_ok_iff]
  exact ⟨fun ⟨_, pattern, read, _⟩ => ⟨pattern, read⟩, fun ⟨pattern, read⟩ => ⟨_, pattern, read, rfl⟩⟩

theorem RoutePlan.build_eq_error_iff {error : RoutingError} :
    planned.build options = .error error ↔
      PathPattern.parse options (fullPattern planned.pattern) = .error error := by
  rw [build, bind_eq_error_iff]
  refine or_iff_left ?_
  rintro ⟨_, _, impossible⟩
  cases impossible

end Route

namespace RouterPlan

variable {plan : RouterPlan}

theorem build_eq_ok_iff {router : PatternRouter} :
    plan.build = .ok router ↔
      ∃ routes, plan.routes.mapM (RoutePlan.build plan.mode.options) = .ok routes ∧
        ⟨plan.name, plan.order, plan.mode, routes, plan.interceptors⟩ = router := by
  rw [build, bind_eq_ok_iff]
  simp only [pure_eq_ok_iff]

theorem exists_build_eq_ok_iff :
    (∃ router, plan.build = .ok router) ↔
      ∀ planned ∈ plan.routes,
        PathPattern.IsPattern plan.mode.options (fullPattern planned.pattern) := by
  simp only [← RoutePlan.exists_build_eq_ok_iff, ← exists_mapM_eq_ok_iff, build_eq_ok_iff]
  exact ⟨fun ⟨_, routes, built, _⟩ => ⟨routes, built⟩, fun ⟨routes, built⟩ => ⟨_, routes, built, rfl⟩⟩

theorem build_eq_error_iff {error : RoutingError} :
    plan.build = .error error ↔
      ∃ before planned after, plan.routes = before ++ planned :: after ∧
        (∀ earlier ∈ before,
          PathPattern.IsPattern plan.mode.options (fullPattern earlier.pattern)) ∧
        PathPattern.parse plan.mode.options (fullPattern planned.pattern) = .error error := by
  simp only [← RoutePlan.exists_build_eq_ok_iff, ← RoutePlan.build_eq_error_iff,
    ← mapM_eq_error_iff]
  rw [build, bind_eq_error_iff]
  refine or_iff_left ?_
  rintro ⟨_, _, impossible⟩
  cases impossible

end RouterPlan

/-- A text is accepted exactly if each of its segments stands for an element, no variable is
captured twice and a capture of the rest stands last. The pattern has these elements, in order, and
keeps the text. Any other text is refused as a whole, for the rule that the leftmost of the segments
which break one breaks. A router is built exactly if the full patterns of all its routes are
accepted, and the first of them that is refused decides the error. -/
theorem PathPattern.parse_isPattern (options : PatternOptions) (text : String) :
    ((∃ pattern, parse options text = .ok pattern) ↔ IsPattern options text) ∧
    (∀ pattern, parse options text = .ok pattern →
      Conforms options (Text.segments text) pattern.elements ∧ pattern.source = text) ∧
    (∀ error, parse options text = .error error ↔
      ∃ fault, LeftmostFault options [] (Text.segments text) fault ∧
        error = .invalidPattern text fault.reason) ∧
    ∀ plan : RouterPlan,
      ((∃ router, plan.build = .ok router) ↔
        ∀ planned ∈ plan.routes, IsPattern plan.mode.options (fullPattern planned.pattern)) ∧
      ∀ error, plan.build = .error error ↔
        ∃ before planned after, plan.routes = before ++ planned :: after ∧
          (∀ earlier ∈ before, IsPattern plan.mode.options (fullPattern earlier.pattern)) ∧
          parse plan.mode.options (fullPattern planned.pattern) = .error error := by
  refine ⟨exists_parse_eq_ok_iff, ?_, fun _ => parse_eq_error_iff,
    fun _ => ⟨RouterPlan.exists_build_eq_ok_iff, fun _ => RouterPlan.build_eq_error_iff⟩⟩
  intro pattern read
  obtain ⟨elements, conforms, rfl⟩ := parse_eq_ok_iff_conforms.mp read
  exact ⟨conforms, rfl⟩

end RouteProbe
