import RouteProbe.Pipeline.CorsStage

/-! # Which preflights are approved

A preflight asks for a method and for headers before the request itself is sent. The stage for
policies answers it alone: it approves what passes the policy and refuses all else. But what the
stage cannot read it takes for absent, and of several lists of headers it reads the first. Main
statements: what an approval says about the method and about the headers, and exactly when it says
what it ought to.
-/

namespace RouteProbe

/-- A preflight from an origin, which asks for a method by the first value under the name for it. -/
structure Request.IsPreflightOf (request : Request) (origin : String) (asked : HeaderValue) :
    Prop where
  method : request.method = .options
  origin : request.headers.text? HeaderName.origin = some origin
  asks : request.headers.get? HeaderName.requestMethod = some asked

theorem Request.IsPreflightOf.isPreflight {request : Request} {origin : String}
    {asked : HeaderValue} (preflight : request.IsPreflightOf origin asked) :
    request.isPreflight = true := by
  obtain ⟨value, found, _⟩ := Option.bind_eq_some_iff.mp preflight.origin
  simp [Request.isPreflight, Headers.contains, preflight.method, found, preflight.asks]

theorem Headers.get?_eq_head?_getAll (headers : Headers) (name : String) :
    headers.get? name = (headers.getAll name).head? := by
  rw [get?, getAll, List.head?_map, List.head?_filter]

namespace HeaderValue

/-- The method that a value spells, if it can be read as one. -/
def method? (value : HeaderValue) : Option Method := value.text?.bind Method.parse?

def names (value : HeaderValue) : List String :=
  match value.text? with
  | some list => ((Text.pieces ',' list).map Text.trim).filter (· ≠ "")
  | none => []

end HeaderValue

theorem Response.status_ofText (status : Nat) (message : String) :
    (Response.ofText status message).status = status :=
  Response.status_ofBody status _ message

namespace CorsPolicy

variable {policy : CorsPolicy} {headers : Headers} {origin : String} {asked : HeaderValue}

/-- Whether a value is, as text, one of the allowed methods. -/
def ListsMethod (policy : CorsPolicy) (asked : HeaderValue) : Prop :=
  ∃ text, asked.text? = some text ∧ policy.methods.contains text = true

/-- Whether everything on a line with names of headers is allowed; a line that cannot be read asks
for any header. -/
structure AllowsLine (policy : CorsPolicy) (line : HeaderValue) : Prop where
  readable : line.text? = none → policy.headers.contains "*" = true
  names : ∀ name ∈ line.names, policy.allowsHeader name = true

/-- What the stage finds out before it approves a preflight. -/
structure Passes (policy : CorsPolicy) (headers : Headers) (origin : String)
    (asked : HeaderValue) : Prop where
  origin : policy.origins.admits origin = true
  method : asked.method? = none ∨ policy.ListsMethod asked
  names : ∀ line, headers.get? HeaderName.requestHeaders = some line →
    ∀ name ∈ line.names, policy.allowsHeader name = true

theorem listsMethod_iff {method : Method} (read : asked.method? = some method) :
    policy.ListsMethod asked ↔ policy.allowsMethod method = true := by
  obtain ⟨text, spelt, parsed⟩ := Option.bind_eq_some_iff.mp read
  have same := Method.parse?_eq_some_iff.mp parsed
  rw [ListsMethod, allowsMethod, same]
  constructor
  · rintro ⟨other, otherSpelt, listed⟩
    obtain rfl := Option.some.inj (spelt.symm.trans otherSpelt)
    exact listed
  · exact fun listed => ⟨text, spelt, listed⟩

theorem refuses_method_iff (asks : headers.get? HeaderName.requestMethod = some asked) :
    ((requestedMethod? headers).any fun method => !policy.allowsMethod method) = false ↔
      asked.method? = none ∨ policy.ListsMethod asked := by
  have requested : requestedMethod? headers = asked.method? := by
    rw [requestedMethod?, Headers.text?, asks]
    rfl
  rw [requested]
  cases read : asked.method? with
  | none => simp
  | some method => simp [listsMethod_iff read]

theorem mem_requestedHeaders_iff {name : String} :
    name ∈ requestedHeaders headers ↔
      ∃ line, headers.get? HeaderName.requestHeaders = some line ∧ name ∈ line.names := by
  cases first : headers.get? HeaderName.requestHeaders with
  | none => simp [requestedHeaders, Headers.text?, first]
  | some line =>
    have read : requestedHeaders headers = line.names := by
      rw [requestedHeaders, Headers.text?, first]
      rfl
    simp [read]

theorem refusal?_eq_none_iff (asks : headers.get? HeaderName.requestMethod = some asked) :
    policy.refusal? headers origin = none ↔ policy.Passes headers origin asked := by
  unfold refusal?
  constructor
  · intro nothing
    split at nothing
    · cases nothing
    next admitted =>
      split at nothing
      · cases nothing
      next method =>
        rw [Option.map_eq_none_iff, List.find?_eq_none] at nothing
        refine ⟨by simpa using admitted, ?_, ?_⟩
        · exact (refuses_method_iff asks).mp (Bool.eq_false_iff.mpr method)
        · intro line first name listed
          simpa using nothing name (mem_requestedHeaders_iff.mpr ⟨line, first, listed⟩)
  · intro passes
    have method := (refuses_method_iff asks).mpr passes.method
    have names : ∀ name ∈ requestedHeaders headers, ¬ (!policy.allowsHeader name) = true := by
      intro name requested
      obtain ⟨line, first, listed⟩ := mem_requestedHeaders_iff.mp requested
      simp [passes.names line first name listed]
    rw [passes.origin, method, List.find?_eq_none.mpr names]
    rfl

/-- An approval has the status 204, and a refusal 403. -/
theorem status_answerPreflight (policy : CorsPolicy) (headers : Headers) (origin : String) :
    (policy.answerPreflight headers origin).status =
      if policy.refusal? headers origin = none then 204 else 403 := by
  unfold answerPreflight
  cases policy.refusal? headers origin with
  | none => rfl
  | some refusal => exact Response.status_ofText 403 refusal.message

/-- A preflight is approved if it passes, and refused if it does not. -/
theorem status_answerPreflight_cases (policy : CorsPolicy) (origin : String)
    (asks : headers.get? HeaderName.requestMethod = some asked) :
    (policy.answerPreflight headers origin).status = 204 ∧ policy.Passes headers origin asked ∨
      (policy.answerPreflight headers origin).status = 403 ∧
        ¬ policy.Passes headers origin asked := by
  rw [status_answerPreflight, ← refusal?_eq_none_iff asks]
  by_cases nothing : policy.refusal? headers origin = none
  · exact .inl ⟨if_pos nothing, nothing⟩
  · exact .inr ⟨if_neg nothing, nothing⟩

/-- What an answer ought to say about the method: an approval, that origin and method are allowed;
and where they are not, the answer ought to be a refusal. -/
structure GuardsMethod (policy : CorsPolicy) (origin : String) (asked : HeaderValue)
    (response : Response) : Prop where
  allowed_of_approved : response.status = 204 →
    policy.origins.admits origin = true ∧ policy.ListsMethod asked
  refused_of_not_allowed : ¬ (policy.origins.admits origin = true ∧ policy.ListsMethod asked) →
    response.status = 403

/-- An answer says about the method what it ought to, unless the method cannot be read and nothing
else is refused. -/
theorem guardsMethod_iff (asks : headers.get? HeaderName.requestMethod = some asked) :
    policy.GuardsMethod origin asked (policy.answerPreflight headers origin) ↔
      ¬ (policy.Passes headers origin asked ∧ asked.method? = none ∧
        ¬ policy.ListsMethod asked) := by
  constructor
  · rintro guards ⟨passes, _, unlisted⟩
    rcases status_answerPreflight_cases policy origin asks with ⟨approved, _⟩ | ⟨_, stopped⟩
    · exact unlisted (guards.allowed_of_approved approved).2
    · exact stopped passes
  · intro exceptional
    have listed_of_passes (passes : policy.Passes headers origin asked) :
        policy.ListsMethod asked := by
      rcases passes.method with unreadable | listed
      · by_cases listed : policy.ListsMethod asked
        · exact listed
        · exact absurd ⟨passes, unreadable, listed⟩ exceptional
      · exact listed
    rcases status_answerPreflight_cases policy origin asks with
      ⟨approved, passes⟩ | ⟨refused, _⟩
    · have allowed := And.intro passes.origin (listed_of_passes passes)
      exact ⟨fun _ => allowed, fun notAllowed => absurd allowed notAllowed⟩
    · refine ⟨fun approved => ?_, fun _ => refused⟩
      rw [refused] at approved
      contradiction

/-- What an approval ought to say about the headers: everything on every line is allowed. -/
def GuardsHeaders (policy : CorsPolicy) (headers : Headers) (response : Response) : Prop :=
  response.status = 204 → ∀ line ∈ headers.getAll HeaderName.requestHeaders, policy.AllowsLine line

/-- Whether everything on lines with names of headers is allowed that the stage does not look at:
all of the lines behind the first one, and the first one itself if it cannot be read. -/
def AllowsUnread (policy : CorsPolicy) : List HeaderValue → Prop
  | [] => True
  | first :: others =>
    (first.text? = none → policy.headers.contains "*" = true) ∧
      ∀ line ∈ others, policy.AllowsLine line

/-- An approval says about the headers what it ought to if what the stage does not look at is
allowed as well, and only then. -/
theorem guardsHeaders_iff (asks : headers.get? HeaderName.requestMethod = some asked) :
    policy.GuardsHeaders headers (policy.answerPreflight headers origin) ↔
      (policy.Passes headers origin asked →
        policy.AllowsUnread (headers.getAll HeaderName.requestHeaders)) := by
  have approved_iff : (policy.answerPreflight headers origin).status = 204 ↔
      policy.Passes headers origin asked := by
    rcases status_answerPreflight_cases policy origin asks with
      ⟨approved, passes⟩ | ⟨refused, stopped⟩
    · exact iff_of_true approved passes
    · exact iff_of_false (by simp [refused]) stopped
  rw [GuardsHeaders, approved_iff]
  refine imp_congr_right fun passes => ?_
  have first := headers.get?_eq_head?_getAll HeaderName.requestHeaders
  cases lines : headers.getAll HeaderName.requestHeaders with
  | nil => simp [AllowsUnread]
  | cons line others =>
    rw [lines, List.head?_cons] at first
    rw [List.forall_mem_cons, AllowsUnread]
    exact and_congr_left' ⟨AllowsLine.readable, fun readable => ⟨readable, passes.names line first⟩⟩

end CorsPolicy

section

variable {σ : Type} {lookup : PolicyLookup} {visit : Visit σ} {origin : String}
  {asked : HeaderValue} {policy : CorsPolicy}

theorem corsStage_process_of_preflight (preflight : visit.request.IsPreflightOf origin asked)
    (found : (lookup visit.store visit.request).1 = .ok (some policy)) (next : Next σ) :
    (corsStage lookup).process next visit =
      let response := policy.answerPreflight visit.request.headers origin
      (.done response,
        Visit.notify { visit with store := (lookup visit.store visit.request).2 }
          (.preflightAnswered visit.request.path origin response.status)) := by
  simp only [corsStage, preflight.origin, found, preflight.isPreflight, if_true]

/-- A preflight is approved if its origin is admitted, its method is allowed or cannot be read, and
the names on its first line of headers are allowed; otherwise it is refused. So the answer says
about the method what it ought to, unless the method cannot be read and nothing else is refused. -/
theorem corsStage_guardsMethod_iff (preflight : visit.request.IsPreflightOf origin asked)
    (found : (lookup visit.store visit.request).1 = .ok (some policy)) (next : Next σ) :
    ∃ response, ((corsStage lookup).process next visit).1 = .done response ∧
      (response.status = 204 ∧ policy.Passes visit.request.headers origin asked ∨
        response.status = 403 ∧ ¬ policy.Passes visit.request.headers origin asked) ∧
      (policy.GuardsMethod origin asked response ↔
        ¬ (policy.Passes visit.request.headers origin asked ∧ asked.method? = none ∧
          ¬ policy.ListsMethod asked)) := by
  refine ⟨policy.answerPreflight visit.request.headers origin, ?_, ?_, ?_⟩
  · rw [corsStage_process_of_preflight preflight found]
  · exact policy.status_answerPreflight_cases origin preflight.asks
  · exact CorsPolicy.guardsMethod_iff preflight.asks

/-- A preflight that is approved asks for allowed headers only on its first line, as far as that can
be read. It asks for nothing else on any line exactly if what the stage does not look at is allowed
as well. -/
theorem corsStage_guardsHeaders_iff (preflight : visit.request.IsPreflightOf origin asked)
    (found : (lookup visit.store visit.request).1 = .ok (some policy)) (next : Next σ) :
    ∃ response, ((corsStage lookup).process next visit).1 = .done response ∧
      (response.status = 204 ∧ policy.Passes visit.request.headers origin asked ∨
        response.status = 403 ∧ ¬ policy.Passes visit.request.headers origin asked) ∧
      (policy.GuardsHeaders visit.request.headers response ↔
        (policy.Passes visit.request.headers origin asked →
          policy.AllowsUnread (visit.request.headers.getAll HeaderName.requestHeaders))) := by
  refine ⟨policy.answerPreflight visit.request.headers origin, ?_, ?_, ?_⟩
  · rw [corsStage_process_of_preflight preflight found]
  · exact policy.status_answerPreflight_cases origin preflight.asks
  · exact CorsPolicy.guardsHeaders_iff preflight.asks

end

section

private abbrev appPolicy : CorsPolicy :=
  .build [.origin "https://app.example.com", .methods [.get, .post], .headers ["Content-Type"]]

private abbrev appLookup : PolicyLookup := .ofSource fun _ => .ok (some appPolicy)

/-- A visit of a preflight that asks for a method and for headers by these values. -/
private abbrev appVisit (asked : HeaderValue) (lines : List HeaderValue) : Visit Unit where
  request := {
    method := .options
    uri := ⟨none, none, "/users/7", none⟩
    headers := ⟨(HeaderName.origin, ⟨Text.octets "https://app.example.com", by decide⟩) ::
      (HeaderName.requestMethod, asked) ::
        lines.map fun line => (HeaderName.requestHeaders, line)⟩ }
  host := ()

private theorem isPreflightOf_appVisit (asked : HeaderValue) (lines : List HeaderValue) :
    (appVisit asked lines).request.IsPreflightOf "https://app.example.com" asked :=
  ⟨rfl, rfl, rfl⟩

private abbrev getValue : HeaderValue := ⟨Text.octets "GET", by decide⟩
private abbrev putValue : HeaderValue := ⟨Text.octets "PUT", by decide⟩
private abbrev deleteSlash : HeaderValue := ⟨Text.octets "DELETE/", by decide⟩
private abbrev contentType : HeaderValue := ⟨Text.octets "content-type", by decide⟩
private abbrev capitals : HeaderValue := ⟨Text.octets "Content-Type,,", by decide⟩
private abbrev admin : HeaderValue := ⟨Text.octets "x-admin", by decide⟩
private abbrev accented : HeaderValue := ⟨Text.octets "x-é", by decide⟩

private abbrev unreached : Next Unit := fun visit => (.pending, visit)

/-- A method that can be read and is not allowed is refused. -/
theorem corsStage_guardsMethod_put :
    ∃ response,
      ((corsStage appLookup).process unreached (appVisit putValue [])).1 = .done response ∧
        appPolicy.GuardsMethod "https://app.example.com" putValue response := by
  have found : (appLookup {} (appVisit putValue []).request).1 = .ok (some appPolicy) := by rfl
  obtain ⟨response, answered, _, guards⟩ :=
    corsStage_guardsMethod_iff (isPreflightOf_appVisit putValue []) found unreached
  exact ⟨response, answered, guards.mpr fun exception => absurd exception.2.1 (by decide)⟩

/-- A value that is no method at all is approved, although it is not allowed. -/
theorem corsStage_guardsMethod_not_malformed :
    (appVisit deleteSlash []).request.IsPreflightOf "https://app.example.com" deleteSlash ∧
      (appLookup {} (appVisit deleteSlash []).request).1 = .ok (some appPolicy) ∧
      ∃ response,
        ((corsStage appLookup).process unreached (appVisit deleteSlash [])).1 = .done response ∧
          response.status = 204 ∧
          ¬ appPolicy.GuardsMethod "https://app.example.com" deleteSlash response := by
  refine ⟨isPreflightOf_appVisit deleteSlash [], by rfl, _, rfl, by rfl, fun guards => ?_⟩
  obtain ⟨_, text, spelt, listed⟩ := guards.allowed_of_approved rfl
  obtain rfl : "DELETE/" = text := Option.some.inj spelt
  contradiction

/-- Names in any letter case are allowed on every line. -/
theorem corsStage_guardsHeaders_capitals :
    ∃ response,
      ((corsStage appLookup).process unreached (appVisit getValue [contentType, capitals])).1 =
          .done response ∧
        response.status = 204 ∧
        appPolicy.GuardsHeaders (appVisit getValue [contentType, capitals]).request.headers
          response := by
  have found : (appLookup {} (appVisit getValue [contentType, capitals]).request).1 =
      .ok (some appPolicy) := by rfl
  obtain ⟨response, answered, _, guards⟩ :=
    corsStage_guardsHeaders_iff (isPreflightOf_appVisit getValue [contentType, capitals]) found
      unreached
  refine ⟨response, answered, ?_, guards.mpr fun _ => ?_⟩
  · obtain rfl := Outcome.done.inj answered
    rfl
  · change appPolicy.AllowsUnread [contentType, capitals]
    refine ⟨fun unreadable => absurd unreadable (by decide), ?_⟩
    rw [List.forall_mem_singleton]
    exact ⟨fun unreadable => absurd unreadable (by decide), by decide⟩

/-- Whether a preflight with these lines is approved, and ought not to be. -/
private abbrev WronglyApproved (lines : List HeaderValue) : Prop :=
  (appVisit getValue lines).request.IsPreflightOf "https://app.example.com" getValue ∧
    (appLookup {} (appVisit getValue lines).request).1 = .ok (some appPolicy) ∧
    ∃ response,
      ((corsStage appLookup).process unreached (appVisit getValue lines)).1 = .done response ∧
        response.status = 204 ∧
        ¬ appPolicy.GuardsHeaders (appVisit getValue lines).request.headers response

/-- A name on a second line is approved, and so is a line that cannot be read, although neither is
allowed. -/
theorem corsStage_guardsHeaders_not_unread :
    WronglyApproved [contentType, admin] ∧ WronglyApproved [accented] := by
  constructor
  · refine ⟨isPreflightOf_appVisit _ _, by rfl, _, rfl, by rfl, fun guards => ?_⟩
    have allowed := (guards rfl admin (by decide)).names "x-admin" (by decide)
    contradiction
  · refine ⟨isPreflightOf_appVisit _ _, by rfl, _, rfl, by rfl, fun guards => ?_⟩
    have allowed := (guards rfl accented (by decide)).readable rfl
    contradiction

end

end RouteProbe
