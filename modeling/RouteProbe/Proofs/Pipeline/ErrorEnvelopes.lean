import RouteProbe.Pipeline.Envelope
import RouteProbe.Proofs.Document.WrittenValues

/-! # What a client reads in an envelope

The envelope of an error is read back from the response that reports the error, with every character
of its message. Introspection hides the kind of the errors it wraps, but neither their category nor
their status: these are decided by the first error that is no wrapper, and the code by the error
itself (`ErrorEnvelope.ofResponse?_ofError`).
-/

namespace RouteProbe

open Document

namespace RoutingError

/-- The kinds of routing errors. -/
inductive Kind
  | resolution
  | invalidPath
  | invalidPattern
  | illegalState
  | configuration
  | introspection
  deriving DecidableEq, Repr

/-- The kind of an error, whatever it wraps. -/
def kind : RoutingError → Kind
  | resolution .. => .resolution
  | invalidPath .. => .invalidPath
  | invalidPattern .. => .invalidPattern
  | illegalState .. => .illegalState
  | configuration _ => .configuration
  | introspection _ => .introspection

/-- The error that is found below all outer wrappers of introspection. -/
inductive Wraps : RoutingError → RoutingError → Prop
  | bare {error : RoutingError} (unwrapped : error.kind ≠ .introspection) : Wraps error error
  | introspection {cause inner : RoutingError} (later : Wraps cause inner) :
      Wraps (introspection cause) inner

variable {error inner other : RoutingError}

theorem Wraps.kind_ne (wraps : error.Wraps inner) : inner.kind ≠ .introspection := by
  induction wraps with
  | bare unwrapped => exact unwrapped
  | introspection _ ih => exact ih

/-- There is always one such error. -/
theorem exists_wraps : ∀ error : RoutingError, ∃ inner, error.Wraps inner
  | introspection cause =>
    let ⟨inner, later⟩ := exists_wraps cause
    ⟨inner, .introspection later⟩
  | resolution .. | invalidPath .. | invalidPattern .. | illegalState .. | configuration _ =>
    ⟨_, .bare (by simp [kind])⟩

theorem Wraps.category_eq (wraps : error.Wraps inner) : error.category = inner.category := by
  induction wraps with
  | bare => rfl
  | introspection _ ih => exact ih

theorem status_eq (bare : error.kind ≠ .introspection) :
    error.status = if error.kind = .invalidPath ∨ error.kind = .invalidPattern then 400 else 500 := by
  cases error with
  | introspection cause => exact absurd rfl bare
  | _ => rfl

theorem code_eq_iff : error.code = other.code ↔ error.kind = other.kind := by
  cases error <;> cases other <;> simp [code, kind]

end RoutingError

namespace ErrorEnvelope

theorem toValue_isPlain (envelope : ErrorEnvelope) : envelope.toValue.IsPlain := by
  refine .record fun field member => ?_
  obtain rfl := List.mem_singleton.mp member
  refine .record fun field member => ?_
  simp only [List.mem_cons, List.not_mem_nil, or_false] at member
  rcases member with rfl | rfl | rfl <;> exact .text _

/-- An envelope is read back from the value that spells it. -/
theorem ofValue?_toValue (envelope : ErrorEnvelope) : ofValue? envelope.toValue = some envelope := by
  obtain ⟨code, message, category⟩ := envelope
  have named : ErrorCategory.ofValue? (.text category.name) = some category :=
    ErrorCategory.ofName?_name category
  have parts : (detail ⟨code, message, category⟩).fields? ["code", "message", "category"] true =
      some [some (.text code), some (.text message), some (.text category.name)] :=
    Value.takeFields_declared [("code", .text code), ("message", .text message),
      ("category", .text category.name)] (by simp) true
  have detailed : ofDetail? (detail ⟨code, message, category⟩) = some ⟨code, message, category⟩ := by
    simp [ofDetail?, parts, Value.text?, named]
  have whole : (toValue ⟨code, message, category⟩).fields? ["error"] true =
      some [some (detail ⟨code, message, category⟩)] :=
    Value.takeFields_declared [("error", detail ⟨code, message, category⟩)] (by simp) true
  simp [ofValue?, whole, detailed]

/-- A response that reports an error carries its envelope. -/
theorem ofResponse?_ofError (error : RoutingError) :
    ofResponse? (.ofError error) = some error.envelope := by
  rw [ofResponse?, Response.ofError, Response.body_ofBody, toJson,
    Json.read?_render error.envelope.toValue_isPlain, Option.bind_some, ofValue?_toValue]

end ErrorEnvelope

/-- Whatever error is reported, with whatever texts and however it is wrapped, a client reads its
code, its message and its category in the response, and the status is that of the category. Category
and status are those of the first error that is no wrapper of introspection: the status is 400 if
that is a fault of a path or a pattern, and 500 otherwise. The code is that of the error itself: it
tells kinds of errors apart, and nothing else. -/
theorem Response.ofError_tells (error : RoutingError) :
    let response := Response.ofError error
    ErrorEnvelope.ofResponse? response = some ⟨error.code, error.message, error.category⟩ ∧
    response.status = error.category.status ∧
    (∃ inner, error.Wraps inner) ∧
    (∀ inner, error.Wraps inner →
      inner.kind ≠ .introspection ∧
      error.category = inner.category ∧
      response.status = inner.status ∧
      response.status =
        if inner.kind = .invalidPath ∨ inner.kind = .invalidPattern then 400 else 500) ∧
    ∀ other : RoutingError, error.code = other.code ↔ error.kind = other.kind := by
  have status : (Response.ofError error).status = error.category.status :=
    Response.status_ofBody ..
  refine ⟨ErrorEnvelope.ofResponse?_ofError error, status, error.exists_wraps, ?wrapped, ?told⟩
  case wrapped =>
    intro inner wraps
    have same : (Response.ofError error).status = inner.status := by
      rw [status, wraps.category_eq, RoutingError.status]
    exact ⟨wraps.kind_ne, wraps.category_eq, same,
      same.trans (RoutingError.status_eq wraps.kind_ne)⟩
  case told =>
    intro other
    exact RoutingError.code_eq_iff

section

/-- A path with a quote, a backslash, a control character and an accent in it. -/
private abbrev unreadablePath : RoutingError := .invalidPath "/\"\\\x01é" "bad"

/-- The status is that of the path which cannot be read, below two wrappers. Where an illegal state
has come of it, the status is that of the state. -/
theorem Response.ofError_tells_wrapped :
    ErrorEnvelope.ofResponse? (Response.ofError (.introspection (.introspection unreadablePath))) =
      some ⟨"INTROSPECTION_FAILED", "route introspection failed: route introspection failed: " ++
        "invalid request path '/\"\\\x01é': bad", .invalidRequest⟩ ∧
    (Response.ofError (.introspection (.introspection unreadablePath))).status = 400 ∧
    (Response.ofError (.introspection (.stateFrom unreadablePath))).status = 500 := by
  have wrapped := Response.ofError_tells (.introspection (.introspection unreadablePath))
  have stated := Response.ofError_tells (.introspection (.stateFrom unreadablePath))
  refine ⟨wrapped.1, ?_, ?_⟩
  · exact (wrapped.2.2.2.1 unreadablePath (.introspection (.introspection (.bare nofun)))).2.2.2
  · exact (stated.2.2.2.1 (.stateFrom unreadablePath) (.introspection (.bare nofun))).2.2.2

end

end RouteProbe
