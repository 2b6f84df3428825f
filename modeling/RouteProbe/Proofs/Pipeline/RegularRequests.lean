import RouteProbe.Proofs.Pipeline.PolicyHeaders

/-! # Regular requests at the stage for policies

The stage lets a request through unless it is a preflight or its policy cannot be looked up, and it
changes nothing of the response but the fields for the client, and these only if the policy admits
the origin. One of these fields is for caches, and there the stage says less than was said before:
it puts its own names in the place of all others. Main statements: `corsStage_regular`, and exactly
when no name is lost.
-/

namespace RouteProbe

variable {σ : Type}

/-- The rest of a run, with a count of its runs beside what the surroundings keep. -/
def Next.counting (next : Next σ) : Next (Nat × σ) := fun visit =>
  let (outcome, left) := next { visit with host := visit.host.2 }
  (outcome, { left with host := (visit.host.1 + 1, left.host) })

/-- The visit before any run has been counted. -/
def Visit.uncounted (visit : Visit σ) : Visit (Nat × σ) := { visit with host := (0, visit.host) }

/-- How often a stage lets the rest of a run come to a visit. -/
def Stage.runs (stage : Stage (Nat × σ)) (next : Next σ) (visit : Visit σ) : Nat :=
  (stage.process next.counting visit.uncounted).2.host.1

/-- The visit as a lookup leaves it. -/
def Visit.lookedUp (visit : Visit σ) (lookup : PolicyLookup) : Visit σ :=
  { visit with store := (lookup visit.store visit.request).2 }

/-- What a stage does about a request: it answers by itself, or it lets the rest of the run come to
the request and changes the response. Either way it may change the store before. -/
inductive StageAction
  | answers (response : Response) (store : Store)
  | relays (store : Store) (change : Response → Response)

namespace StageAction

/-- Acts on a visit. -/
def process (action : StageAction) (next : Next σ) : Next σ := fun visit =>
  match action with
  | answers response store => (.done response, { visit with store })
  | relays store change =>
    let (outcome, left) := next { visit with store }
    (outcome.map change, left)

/-- How often the rest of the run comes to the request. -/
def runs : StageAction → Nat
  | answers _ _ => 0
  | relays _ _ => 1

/-- What the stage for policies does about a request. -/
def ofPolicies (lookup : PolicyLookup) (store : Store) (request : Request) : StageAction :=
  match request.headers.text? HeaderName.origin with
  | none => relays store id
  | some origin =>
    let (found, store) := lookup store request
    match found with
    | .error error =>
      answers (.ofError error)
        (store.notify (.policyLookupFailed request.path origin error.message))
    | .ok none => relays store id
    | .ok (some policy) =>
      if request.isPreflight then
        let response := policy.answerPreflight request.headers origin
        answers response (store.notify (.preflightAnswered request.path origin response.status))
      else relays store (policy.decorate origin)

theorem process_relays_id (store : Store) (next : Next σ) (visit : Visit σ) :
    (relays store id).process next visit = next { visit with store } := by
  simp only [process]
  cases next { visit with store } with
  | mk outcome left => cases outcome <;> rfl

end StageAction

section

variable {lookup : PolicyLookup} {store : Store} {request : Request} {origin : String}
  {policy : CorsPolicy}

theorem StageAction.ofPolicies_of_unread (unread : request.headers.text? HeaderName.origin = none) :
    ofPolicies lookup store request = relays store id := by
  simp only [ofPolicies, unread]

variable (come : request.headers.text? HeaderName.origin = some origin)

include come

theorem StageAction.ofPolicies_of_error {error : RoutingError}
    (failed : (lookup store request).1 = .error error) :
    ofPolicies lookup store request =
      answers (.ofError error) ((lookup store request).2.notify
        (.policyLookupFailed request.path origin error.message)) := by
  simp only [ofPolicies, come, failed]

theorem StageAction.ofPolicies_of_no_policy (nothing : (lookup store request).1 = .ok none) :
    ofPolicies lookup store request = relays (lookup store request).2 id := by
  simp only [ofPolicies, come, nothing]

theorem StageAction.ofPolicies_of_preflight (found : (lookup store request).1 = .ok (some policy))
    (preflight : request.isPreflight = true) :
    ofPolicies lookup store request =
      let response := policy.answerPreflight request.headers origin
      answers response ((lookup store request).2.notify
        (.preflightAnswered request.path origin response.status)) := by
  simp only [ofPolicies, come, found, preflight, if_true]

theorem StageAction.ofPolicies_of_regular (found : (lookup store request).1 = .ok (some policy))
    (regular : request.isPreflight = false) :
    ofPolicies lookup store request =
      relays (lookup store request).2 (policy.decorate origin) := by
  simp only [ofPolicies, come, found, regular, Bool.false_eq_true, if_false]

end

/-- The stage decides by the request and the store alone what it does. -/
theorem corsStage_process_eq (lookup : PolicyLookup) (next : Next σ) (visit : Visit σ) :
    (corsStage lookup).process next visit =
      (StageAction.ofPolicies lookup visit.store visit.request).process next visit := by
  cases come : visit.request.headers.text? HeaderName.origin with
  | none =>
    rw [StageAction.ofPolicies_of_unread come, StageAction.process_relays_id]
    simp only [corsStage, come]
  | some origin =>
    cases found : (lookup visit.store visit.request).1 with
    | error error =>
      rw [StageAction.ofPolicies_of_error come found]
      simp only [corsStage, come, found]
      rfl
    | ok policy =>
      cases policy with
      | none =>
        rw [StageAction.ofPolicies_of_no_policy come found, StageAction.process_relays_id]
        simp only [corsStage, come, found]
      | some policy =>
        cases kind : visit.request.isPreflight with
        | true =>
          rw [StageAction.ofPolicies_of_preflight come found kind]
          simp only [corsStage, come, found, kind, if_true]
          rfl
        | false =>
          rw [StageAction.ofPolicies_of_regular come found kind]
          simp only [corsStage, come, found, kind, Bool.false_eq_true, if_false]
          rfl

theorem corsStage_runs_eq (lookup : PolicyLookup) (next : Next σ) (visit : Visit σ) :
    (corsStage lookup).runs next visit =
      (StageAction.ofPolicies lookup visit.store visit.request).runs := by
  rw [Stage.runs, corsStage_process_eq]
  change ((StageAction.ofPolicies lookup visit.store visit.request).process next.counting
    visit.uncounted).2.host.1 = _
  cases StageAction.ofPolicies lookup visit.store visit.request <;> rfl

namespace CorsPolicy

variable {policy : CorsPolicy} {origin : String} {sent : HeaderValue}

/-- A response as a client may see it that sent its origin in this value: four fields may have
changed, and of those three are told here. -/
structure IsDecoration (policy : CorsPolicy) (sent : HeaderValue) (response answer : Response) :
    Prop where
  status : answer.status = response.status
  body : answer.body = response.body
  shows : policy.ShowsOrigin sent response.headers answer.headers
  exposed : response.headers.Announces answer.headers HeaderName.exposeHeaders policy.exposed
  others : ∀ name, name ∉ [HeaderName.allowOrigin, HeaderName.allowCredentials,
    HeaderName.exposeHeaders, HeaderName.vary] →
      answer.headers.getAll name = response.headers.getAll name

theorem isDecoration_decorate (admitted : policy.origins.admits origin = true)
    (spelt : sent.Spells origin) (response : Response) :
    policy.IsDecoration sent response (policy.decorate origin response) := by
  have distinct := policy.nodup_decorationFields origin
  rw [decorate_of_admits admitted]
  constructor
  · rfl
  · rfl
  · exact showsOrigin_insertAll distinct admitted spelt
  · exact Headers.announces_insertAll distinct (by simp [decorationFields])
  · intro name other
    exact Headers.getAll_insertAll_of_not_mem other

end CorsPolicy

/-- What becomes of a request at the stage, preflights with a policy apart. If its origin cannot be
read, nothing is looked up and the rest of the run goes on with the visit as it is. If the lookup
fails, the response reports that, and the rest does not run. If there is no policy, the rest decides
alone. If there is one, the rest runs once, and what it answers is returned as it is, or, if the
policy admits the origin, with the fields for the client. -/
theorem corsStage_regular (lookup : PolicyLookup) (next : Next σ) (visit : Visit σ) :
    (visit.request.headers.text? HeaderName.origin = none →
      (corsStage lookup).process next visit = next visit ∧
        (corsStage lookup).runs next visit = 1) ∧
    ∀ origin, visit.request.headers.text? HeaderName.origin = some origin →
      (∀ error, (lookup visit.store visit.request).1 = .error error →
        ((corsStage lookup).process next visit).1 = .done (.ofError error) ∧
          (corsStage lookup).runs next visit = 0) ∧
      ((lookup visit.store visit.request).1 = .ok none →
        (corsStage lookup).process next visit = next (visit.lookedUp lookup) ∧
          (corsStage lookup).runs next visit = 1) ∧
      ∀ policy, (lookup visit.store visit.request).1 = .ok (some policy) →
        visit.request.isPreflight = false →
        (corsStage lookup).runs next visit = 1 ∧
        ((corsStage lookup).process next visit).2 = (next (visit.lookedUp lookup)).2 ∧
        ((next (visit.lookedUp lookup)).1 = .pending →
          ((corsStage lookup).process next visit).1 = .pending) ∧
        ∀ response, (next (visit.lookedUp lookup)).1 = .done response →
          ∃ answer, ((corsStage lookup).process next visit).1 = .done answer ∧
            (policy.origins.admits origin = false → answer = response) ∧
            (policy.origins.admits origin = true →
              ∃ sent, visit.request.headers.get? HeaderName.origin = some sent ∧
                policy.IsDecoration sent response answer) := by
  rw [corsStage_process_eq, corsStage_runs_eq]
  constructor
  · intro unread
    rw [StageAction.ofPolicies_of_unread unread]
    exact ⟨StageAction.process_relays_id visit.store next visit, rfl⟩
  · intro origin come
    refine ⟨?_, ?_, ?_⟩
    · intro error failed
      rw [StageAction.ofPolicies_of_error come failed]
      exact ⟨rfl, rfl⟩
    · intro nothing
      rw [StageAction.ofPolicies_of_no_policy come nothing]
      exact ⟨StageAction.process_relays_id _ next visit, rfl⟩
    · intro policy found regular
      rw [StageAction.ofPolicies_of_regular come found regular]
      refine ⟨rfl, rfl, ?_, ?_⟩
      · exact fun stalled => congrArg (Outcome.map (policy.decorate origin)) stalled
      · intro response answered
        refine ⟨policy.decorate origin response,
          congrArg (Outcome.map (policy.decorate origin)) answered, ?_, ?_⟩
        · exact fun refused => CorsPolicy.decorate_of_not_admits refused response
        · intro admitted
          obtain ⟨sent, first, read⟩ := Option.bind_eq_some_iff.mp come
          exact ⟨sent, first, CorsPolicy.isDecoration_decorate admitted
            (HeaderValue.spells_of_text? read) response⟩

/-- The names that headers list in the fields which tell caches what a response depends on. -/
def Headers.varyNames (headers : Headers) : List String :=
  (headers.getAll HeaderName.vary).flatMap HeaderValue.headerNames

/-- Whether an answer tells caches of everything that a response told them of, and of the origin. -/
structure Response.KeepsVary (answer response : Response) : Prop where
  kept : ∀ name ∈ response.headers.varyNames, name ∈ answer.headers.varyNames
  origin : HeaderName.origin ∈ answer.headers.varyNames

/-- The fields for the client leave one name to caches. -/
theorem CorsPolicy.varyNames_decorate {policy : CorsPolicy} {origin : String}
    (admitted : policy.origins.admits origin = true) (response : Response) :
    (policy.decorate origin response).headers.varyNames = [HeaderName.origin] := by
  have varied : (HeaderName.vary, HeaderValue.ofText? "Origin") ∈
      policy.decorationFields origin := by simp [decorationFields]
  have left := Headers.getAll_insertAll_of_mem response.headers
    (policy.nodup_decorationFields origin) varied
  have made : HeaderValue.ofText? "Origin" = some ⟨Text.octets "Origin", by decide⟩ := rfl
  rw [made, Option.elim_some] at left
  rw [decorate_of_admits admitted, Headers.varyNames, left]
  decide

/-- The answer to a request whose origin is admitted tells caches of the origin and of nothing else.
So it loses no name that the rest of the run has listed exactly if that has listed none but this
one. -/
theorem corsStage_keepsVary_iff {lookup : PolicyLookup} {next : Next σ} {visit : Visit σ}
    {origin : String} {policy : CorsPolicy} {response : Response}
    (come : visit.request.headers.text? HeaderName.origin = some origin)
    (found : (lookup visit.store visit.request).1 = .ok (some policy))
    (regular : visit.request.isPreflight = false)
    (admitted : policy.origins.admits origin = true)
    (answered : (next (visit.lookedUp lookup)).1 = .done response) :
    ∃ answer, ((corsStage lookup).process next visit).1 = .done answer ∧
      answer.headers.varyNames = [HeaderName.origin] ∧
      (answer.KeepsVary response ↔
        ∀ name ∈ response.headers.varyNames, name = HeaderName.origin) := by
  have told := CorsPolicy.varyNames_decorate admitted response
  refine ⟨policy.decorate origin response, ?_, told, ?_⟩
  · rw [corsStage_process_eq, StageAction.ofPolicies_of_regular come found regular]
    exact congrArg (Outcome.map (policy.decorate origin)) answered
  · constructor
    · intro keeps name listed
      have still := keeps.kept name listed
      rw [told] at still
      exact List.mem_singleton.mp still
    · intro alone
      refine ⟨fun name listed => ?_, ?_⟩
      · rw [told, alone name listed]
        exact List.mem_singleton_self _
      · rw [told]
        exact List.mem_singleton_self _

section

private abbrev blogPolicy : CorsPolicy :=
  .build [.origin "https://reader.example.com", .expose ["X-Total", "ETag"]]

private abbrev blogLookup : PolicyLookup := .ofSource fun _ => .ok (some blogPolicy)

private abbrev deadLookup : PolicyLookup := .ofSource fun _ => .error (.configuration "no blog")

private abbrev blogVisit (origin : HeaderValue) : Visit Unit where
  request := { uri := ⟨none, none, "/posts", none⟩, headers := ⟨[(HeaderName.origin, origin)]⟩ }
  host := ()

private abbrev readerOrigin : HeaderValue := ⟨Text.octets "https://reader.example.com", by decide⟩

private abbrev strangerOrigin : HeaderValue := ⟨Text.octets "https://other.example.com", by decide⟩

/-- An origin that cannot be read as text. -/
private abbrev garbledOrigin : HeaderValue := ⟨Text.octets "https://läser.example.com", by decide⟩

/-- What the blog answers, with a field for caches in this value. -/
private abbrev blogResponse (vary : HeaderValue) : Response where
  headers := ⟨[("etag", ⟨Text.octets "7", by decide⟩), (HeaderName.vary, vary)]⟩
  body := Text.octets "posts"

private abbrev blog (vary : HeaderValue) : Next Unit := fun visit => (.done (blogResponse vary), visit)

private abbrev varyOrigin : HeaderValue := ⟨Text.octets "origin, Origin", by decide⟩

private abbrev varyEncoding : HeaderValue := ⟨Text.octets "Accept-Encoding", by decide⟩

/-- A reader sees the fields of the policy beside those of the blog, a stranger only those of the
blog. An origin that cannot be read is not looked up, and where the lookup fails the blog is not
asked. -/
theorem corsStage_regular_blog :
    (∃ answer,
      ((corsStage blogLookup).process (blog varyEncoding) (blogVisit readerOrigin)).1 =
          .done answer ∧
        blogPolicy.IsDecoration readerOrigin (blogResponse varyEncoding) answer ∧
        answer.header? HeaderName.exposeHeaders = some "etag, x-total" ∧
        answer.header? "ETag" = some "7") ∧
    (corsStage blogLookup).runs (blog varyEncoding) (blogVisit readerOrigin) = 1 ∧
    ((corsStage blogLookup).process (blog varyEncoding) (blogVisit strangerOrigin)).1 =
      .done (blogResponse varyEncoding) ∧
    (corsStage deadLookup).process (blog varyEncoding) (blogVisit garbledOrigin) =
      blog varyEncoding (blogVisit garbledOrigin) ∧
    ((corsStage deadLookup).process (blog varyEncoding) (blogVisit readerOrigin)).1 =
      .done (.ofError (.configuration "no blog")) ∧
    (corsStage deadLookup).runs (blog varyEncoding) (blogVisit readerOrigin) = 0 := by
  have read := (corsStage_regular blogLookup (blog varyEncoding) (blogVisit readerOrigin)).2
    "https://reader.example.com" rfl
  have strange := (corsStage_regular blogLookup (blog varyEncoding) (blogVisit strangerOrigin)).2
    "https://other.example.com" rfl
  have garbled :=
    (corsStage_regular deadLookup (blog varyEncoding) (blogVisit garbledOrigin)).1 rfl
  have dead := (corsStage_regular deadLookup (blog varyEncoding) (blogVisit readerOrigin)).2
    "https://reader.example.com" rfl
  obtain ⟨once, _, _, answers⟩ := read.2.2 blogPolicy rfl rfl
  obtain ⟨_, _, _, strangely⟩ := strange.2.2 blogPolicy rfl rfl
  obtain ⟨answer, answered, _, admitted⟩ := answers _ rfl
  obtain ⟨same, unchanged, refused, _⟩ := strangely _ rfl
  obtain ⟨sent, first, decorated⟩ := admitted (by decide)
  obtain rfl : readerOrigin = sent := Option.some.inj first
  refine ⟨⟨answer, answered, decorated, ?_⟩, once, ?_, garbled.1, dead.1 _ rfl⟩
  · obtain rfl := Outcome.done.inj answered
    decide
  · rw [unchanged, refused (by decide)]

/-- A response that tells caches of the origin alone is told on completely. -/
theorem corsStage_keepsVary_origin :
    ∃ answer,
      ((corsStage blogLookup).process (blog varyOrigin) (blogVisit readerOrigin)).1 =
          .done answer ∧
        answer.KeepsVary (blogResponse varyOrigin) := by
  have come : (blogVisit readerOrigin).request.headers.text? HeaderName.origin =
      some "https://reader.example.com" := by rfl
  have found : (blogLookup {} (blogVisit readerOrigin).request).1 = .ok (some blogPolicy) := by rfl
  have answered : (blog varyOrigin ((blogVisit readerOrigin).lookedUp blogLookup)).1 =
      .done (blogResponse varyOrigin) := by rfl
  obtain ⟨answer, outcome, _, keeps⟩ :=
    corsStage_keepsVary_iff come found rfl (by decide) answered
  exact ⟨answer, outcome, keeps.mpr (by decide)⟩

/-- What the response tells caches about the encoding is lost. -/
theorem corsStage_keepsVary_not_encoding :
    (blogVisit readerOrigin).request.headers.text? HeaderName.origin =
        some "https://reader.example.com" ∧
      (blogVisit readerOrigin).request.isPreflight = false ∧
      (blogLookup {} (blogVisit readerOrigin).request).1 = .ok (some blogPolicy) ∧
      blogPolicy.origins.admits "https://reader.example.com" = true ∧
      ∃ answer,
        ((corsStage blogLookup).process (blog varyEncoding) (blogVisit readerOrigin)).1 =
            .done answer ∧
          ¬ answer.KeepsVary (blogResponse varyEncoding) := by
  refine ⟨by rfl, by rfl, by rfl, by decide, _, rfl, fun keeps => ?_⟩
  have lost := keeps.kept "accept-encoding" (by decide)
  contradiction

end

end RouteProbe
