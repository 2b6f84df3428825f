import RouteProbe.Proofs.Pipeline.PolicyHeaders
import RouteProbe.Proofs.Pipeline.Preflights

/-! # What preflights are answered with

An answer to a preflight is an approval, which says what the policy says and nothing else, or a
refusal, which says nothing about the policy. Whoever asks for nothing but what is allowed gets an
approval. All this is about preflights whose origin can be read: the stage does not take up any
other. Main statement: `corsStage_answersPreflight`.
-/

namespace RouteProbe

/-- A preflight whose origin can be read asks for a method. -/
theorem Request.exists_isPreflightOf {request : Request} {origin : String}
    (preflight : request.isPreflight = true)
    (come : request.headers.text? HeaderName.origin = some origin) :
    ∃ asked, request.IsPreflightOf origin asked := by
  simp only [Request.isPreflight, Bool.and_eq_true, beq_iff_eq] at preflight
  obtain ⟨⟨method, _⟩, asks⟩ := preflight
  obtain ⟨asked, first⟩ := Option.isSome_iff_exists.mp asks
  exact ⟨asked, method, come, first⟩

namespace CorsPolicy

variable {policy : CorsPolicy} {headers : Headers} {origin : String} {asked sent : HeaderValue}

/-- A preflight from an admitted origin that asks for nothing but what the policy allows, on any of
its lines. -/
structure AsksAllowed (policy : CorsPolicy) (headers : Headers) (origin : String) : Prop where
  origin : policy.origins.admits origin = true
  method : ∃ method, requestedMethod? headers = some method ∧ policy.allowsMethod method = true
  names : ∀ line ∈ headers.getAll HeaderName.requestHeaders, ∀ name ∈ line.names,
    policy.allowsHeader name = true

/-- The approval of a preflight whose origin was sent in this value: it has a field for everything
that the policy says, and no others. -/
structure IsApproval (policy : CorsPolicy) (sent : HeaderValue) (response : Response) : Prop where
  status : response.status = 204
  body : response.body = []
  shows : policy.ShowsOrigin sent {} response.headers
  methods : Headers.Announces {} response.headers HeaderName.allowMethods policy.methods
  headers : Headers.Announces {} response.headers HeaderName.allowHeaders policy.headers
  maxAge : ∀ seconds, policy.maxAge = some seconds →
    response.headers.Carries HeaderName.maxAge (toString seconds)
  noMaxAge : policy.maxAge = none → response.headers.getAll HeaderName.maxAge = []
  vary : ∃ value, response.headers.getAll HeaderName.vary = [value] ∧
    value.headerNames = [HeaderName.origin, HeaderName.requestMethod, HeaderName.requestHeaders]
  others : ∀ name, name ∉ [HeaderName.allowOrigin, HeaderName.allowCredentials,
    HeaderName.allowMethods, HeaderName.allowHeaders, HeaderName.maxAge, HeaderName.vary] →
      response.headers.getAll name = []

/-- A refusal, which has no field about what would be allowed. -/
structure IsRefusal (response : Response) : Prop where
  status : response.status = 403
  silent : ∀ name, "access-control-".toList <+: name.toList → response.headers.getAll name = []

/-- Who asks for nothing but what is allowed passes: what the stage looks at is part of it. -/
theorem AsksAllowed.passes (allowed : policy.AsksAllowed headers origin)
    (asks : headers.get? HeaderName.requestMethod = some asked) :
    policy.Passes headers origin asked := by
  refine ⟨allowed.origin, .inr ?_, ?_⟩
  · obtain ⟨method, read, listed⟩ := allowed.method
    rw [requestedMethod?, Headers.text?, asks] at read
    exact (listsMethod_iff read).mpr listed
  · intro line first name inside
    rw [Headers.get?_eq_head?_getAll] at first
    exact allowed.names line (List.mem_of_mem_head? first) name inside

/-- An approval for an admitted origin is one. -/
theorem isApproval_approval (admitted : policy.origins.admits origin = true)
    (spelt : sent.Spells origin) : policy.IsApproval sent (policy.approval origin) := by
  have distinct := policy.nodup_approvalFields origin
  have made : (policy.approval origin).headers =
      Headers.insertAll {} (policy.approvalFields origin) := by rw [approval_eq]
  have left {name : String} {found : Option HeaderValue}
      (member : (name, found) ∈ policy.approvalFields origin) :
      (policy.approval origin).headers.getAll name = found.elim [] ([·]) := by
    rw [made]
    exact Headers.getAll_insertAll_of_mem {} distinct member
  have aged : (HeaderName.maxAge,
      policy.maxAge.bind fun seconds => HeaderValue.ofText? (toString seconds)) ∈
        policy.approvalFields origin := by simp [approvalFields]
  have varied : (HeaderName.vary, HeaderValue.ofText?
      "Origin, Access-Control-Request-Method, Access-Control-Request-Headers") ∈
        policy.approvalFields origin := by simp [approvalFields]
  have age := left aged
  have vary := left varied
  constructor
  case status => rw [approval_eq]
  case body => rw [approval_eq]
  case shows =>
    rw [made]
    exact showsOrigin_insertAll distinct admitted spelt
  case methods =>
    rw [made]
    exact Headers.announces_insertAll distinct (by simp [approvalFields])
  case headers =>
    rw [made]
    exact Headers.announces_insertAll distinct (by simp [approvalFields])
  case maxAge =>
    intro seconds limited
    obtain ⟨value, made⟩ := HeaderValue.isLegal_iff.mp (HeaderValue.isLegal_toString seconds)
    rw [limited, Option.bind_some, made] at age
    exact Headers.carries_of_getAll made age
  case noMaxAge =>
    intro unlimited
    rw [unlimited] at age
    exact age
  case vary =>
    have legal : HeaderValue.IsLegal
        "Origin, Access-Control-Request-Method, Access-Control-Request-Headers" := by
      unfold HeaderValue.IsLegal
      decide +kernel
    obtain ⟨value, written⟩ := HeaderValue.isLegal_iff.mp legal
    rw [written] at vary
    refine ⟨value, vary, ?_⟩
    rw [HeaderValue.headerNames, HeaderValue.ofText?_eq_some_iff.mp written]
    decide +kernel
  case others =>
    intro name other
    rw [made]
    exact Headers.getAll_insertAll_of_not_mem other

/-- A refusal in plain text is one. -/
theorem isRefusal_ofText (message : String) : IsRefusal (.ofText 403 message) := by
  refine ⟨Response.status_ofText 403 message, fun name aboutAccess => ?_⟩
  have different : name ≠ "content-type" := by
    rintro rfl
    revert aboutAccess
    decide
  unfold Response.ofText Response.ofBody Response.insertText
  split
  · exact Headers.getAll_insert_of_ne {} different _
  · rfl

/-- Every answer is an approval for an admitted origin or a refusal. -/
theorem answerPreflight_cases (policy : CorsPolicy) (headers : Headers)
    (spelt : sent.Spells origin) :
    policy.origins.admits origin = true ∧
        policy.IsApproval sent (policy.answerPreflight headers origin) ∨
      IsRefusal (policy.answerPreflight headers origin) := by
  unfold answerPreflight
  cases stops : policy.refusal? headers origin with
  | some refusal => exact .inr (isRefusal_ofText refusal.message)
  | none =>
    have admitted : policy.origins.admits origin = true := by
      unfold refusal? at stops
      split at stops
      · contradiction
      next admits => simpa using admits
    exact .inl ⟨admitted, isApproval_approval admitted spelt⟩

end CorsPolicy

/-- A preflight whose origin can be read, and for which there is a policy, is answered by the stage
alone, whatever is behind it: with an approval, which only an admitted origin gets, or with a
refusal. If it asks for nothing but what is allowed, it is approved. -/
theorem corsStage_answersPreflight {σ : Type} {lookup : PolicyLookup} {visit : Visit σ}
    {origin : String} {policy : CorsPolicy} (preflight : visit.request.isPreflight = true)
    (come : visit.request.headers.text? HeaderName.origin = some origin)
    (found : (lookup visit.store visit.request).1 = .ok (some policy)) :
    ∃ sent response after,
      visit.request.headers.get? HeaderName.origin = some sent ∧ sent.text? = some origin ∧
      (∀ next : Next σ, (corsStage lookup).process next visit = (.done response, after)) ∧
      after.request = visit.request ∧ after.host = visit.host ∧
      (policy.origins.admits origin = true ∧ policy.IsApproval sent response ∨
        CorsPolicy.IsRefusal response) ∧
      (policy.AsksAllowed visit.request.headers origin → response.status = 204) := by
  obtain ⟨asked, isPreflight⟩ := Request.exists_isPreflightOf preflight come
  obtain ⟨sent, first, read⟩ := Option.bind_eq_some_iff.mp come
  refine ⟨sent, policy.answerPreflight visit.request.headers origin, _, first, read,
    corsStage_process_of_preflight isPreflight found, rfl, rfl, ?_, ?_⟩
  · exact policy.answerPreflight_cases visit.request.headers (HeaderValue.spells_of_text? read)
  · intro allowed
    rcases policy.status_answerPreflight_cases origin isPreflight.asks with
      ⟨approved, _⟩ | ⟨_, stopped⟩
    · exact approved
    · exact absurd (allowed.passes isPreflight.asks) stopped

section

private abbrev orderPolicy : CorsPolicy :=
  .build [.origin "https://shop.example.com", .methods [.post, .options, .get],
    .headers ["X-Request-Id", "Content-Type"], .credentials true, .maxAge (some 600)]

private abbrev orderLookup : PolicyLookup := .ofSource fun _ => .ok (some orderPolicy)

/-- A visit of a preflight for a POST, from an origin and with lines of headers in these values. -/
private abbrev orderVisit (origin : HeaderValue) (lines : List HeaderValue) : Visit Unit where
  request := {
    method := .options
    uri := ⟨none, none, "/orders", none⟩
    headers := ⟨(HeaderName.origin, origin) ::
      (HeaderName.requestMethod, ⟨Text.octets "POST", by decide⟩) ::
        lines.map fun line => (HeaderName.requestHeaders, line)⟩ }
  host := ()

private abbrev shopOrigin : HeaderValue := ⟨Text.octets "https://shop.example.com", by decide⟩

private abbrev accentedOrigin : HeaderValue := ⟨Text.octets "https://café.example.com", by decide⟩

private abbrev orderLines : List HeaderValue :=
  [⟨Text.octets "content-type,, X-Request-ID", by decide⟩, ⟨Text.octets "Content-Type", by decide⟩]

/-- A preflight with allowed names on two lines is approved, and the lists of the policy are in
order. -/
theorem corsStage_answersPreflight_orders :
    (orderVisit shopOrigin orderLines).request.isPreflight = true ∧
      orderPolicy.AsksAllowed (orderVisit shopOrigin orderLines).request.headers
        "https://shop.example.com" ∧
      ∃ response, (∀ next : Next Unit,
          ((corsStage orderLookup).process next (orderVisit shopOrigin orderLines)).1 =
            .done response) ∧
        response.status = 204 ∧ orderPolicy.IsApproval shopOrigin response ∧
        response.header? HeaderName.allowMethods = some "GET, OPTIONS, POST" ∧
        response.header? HeaderName.allowHeaders = some "content-type, x-request-id" := by
  have preflight : (orderVisit shopOrigin orderLines).request.isPreflight = true := by rfl
  have allowed : orderPolicy.AsksAllowed (orderVisit shopOrigin orderLines).request.headers
      "https://shop.example.com" := by
    refine ⟨rfl, ⟨.post, by rfl, by decide⟩, ?_⟩
    change ∀ line ∈ orderLines, _
    decide
  have found : (orderLookup {} (orderVisit shopOrigin orderLines).request).1 =
      .ok (some orderPolicy) := by rfl
  obtain ⟨sent, response, after, first, _, answered, _, _, answer, approved⟩ :=
    corsStage_answersPreflight preflight rfl found
  obtain rfl : shopOrigin = sent := Option.some.inj first
  have outcome : ∀ next : Next Unit,
      ((corsStage orderLookup).process next (orderVisit shopOrigin orderLines)).1 =
        .done response := fun next => congrArg Prod.fst (answered next)
  have status := approved allowed
  refine ⟨preflight, allowed, response, outcome, status, ?_, ?_⟩
  · rcases answer with ⟨_, approval⟩ | refusal
    · exact approval
    · rw [refusal.status] at status
      contradiction
  · obtain rfl := Outcome.done.inj (outcome fun visit => (.pending, visit))
    decide

/-- A preflight whose origin cannot be read is not answered: it is left to the rest of the run. -/
theorem corsStage_answersPreflight_not_unreadable :
    (orderVisit accentedOrigin []).request.isPreflight = true ∧
      (orderLookup {} (orderVisit accentedOrigin []).request).1 = .ok (some orderPolicy) ∧
      ¬ ∃ response, (∀ next : Next Unit,
          ((corsStage orderLookup).process next (orderVisit accentedOrigin [])).1 =
            .done response) ∧
        (response.status = 204 ∨ response.status = 403) := by
  refine ⟨by rfl, by rfl, ?_⟩
  rintro ⟨response, answered, status⟩
  have ran := answered fun visit => (.done { status := 200 }, visit)
  obtain rfl : { status := 200 } = response := Outcome.done.inj ran
  contradiction

end

end RouteProbe
