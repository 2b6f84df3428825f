import RouteProbe.Pipeline.CorsStage
import RouteProbe.Proofs.Http.HeaderFields

/-! # What headers say about a policy

A policy is written into headers field by field, each in the place of all fields of its name, and
some of the fields only if there is a value for them. A field for a set of names depends on the set
alone: it lists the names in order, and it is left out if there are none or a header cannot hold the
list. Main statements: which fields approvals and decorations are made of, and what such fields say
over the headers that were there before.
-/

namespace RouteProbe

/-- Whether a list holds the names of a set, in order and each of them once. -/
structure NameSet.Lists (set : NameSet) (names : List String) : Prop where
  inOrder : names.Pairwise (· < ·)
  mem_iff : ∀ name, name ∈ names ↔ set.contains name = true

theorem NameSet.lists_names (set : NameSet) : set.Lists set.names := by
  refine ⟨List.pairwise_map.mpr set.sorted, fun name => ?_⟩
  rw [NameMap.contains, Option.isSome_iff_exists, NameMap.names, List.mem_map]
  constructor
  · rintro ⟨⟨_, value⟩, member, rfl⟩
    exact ⟨value, set.get?_eq_some_iff.mpr member⟩
  · rintro ⟨value, found⟩
    exact ⟨(name, value), set.get?_eq_some_iff.mp found, rfl⟩

namespace Headers

open CorsPolicy (insertSome)

variable {before : Headers} {name : String}

/-- Puts fields into headers one after another, those for which there is a value. -/
def insertAll (headers : Headers) (fields : List (String × Option HeaderValue)) : Headers :=
  fields.foldl (fun headers field => insertSome headers field.1 field.2) headers

theorem getAll_insertSome_self (headers : Headers) (name : String) (found : Option HeaderValue) :
    (insertSome headers name found).getAll name = found.elim (headers.getAll name) ([·]) := by
  cases found with
  | none => rfl
  | some value => exact headers.getAll_insert_self name value

theorem getAll_insertSome_of_ne (headers : Headers) {name sought : String}
    (different : sought ≠ name) (found : Option HeaderValue) :
    (insertSome headers name found).getAll sought = headers.getAll sought := by
  cases found with
  | none => rfl
  | some value => exact headers.getAll_insert_of_ne different value

theorem getAll_insertAll_of_not_mem {fields : List (String × Option HeaderValue)}
    (absent : name ∉ fields.map (·.1)) : (before.insertAll fields).getAll name = before.getAll name := by
  induction fields generalizing before with
  | nil => rfl
  | cons field rest ih =>
    obtain ⟨different, later⟩ := not_or.mp (mt List.mem_cons.mpr absent)
    exact (ih later).trans (before.getAll_insertSome_of_ne different field.2)

/-- Of fields with different names, each leaves its value under its name, or what was there if it
has none. -/
theorem getAll_insertAll_of_mem (before : Headers) {fields : List (String × Option HeaderValue)}
    {found : Option HeaderValue} (distinct : (fields.map (·.1)).Nodup)
    (member : (name, found) ∈ fields) :
    (before.insertAll fields).getAll name = found.elim (before.getAll name) ([·]) := by
  induction fields generalizing before with
  | nil => cases member
  | cons field rest ih =>
    obtain ⟨fresh, distinctLater⟩ := List.nodup_cons.mp distinct
    rcases List.mem_cons.mp member with rfl | later
    · exact (getAll_insertAll_of_not_mem fresh).trans (before.getAll_insertSome_self name found)
    · have different : name ≠ field.1 := by
        intro same
        apply fresh
        exact List.mem_map.mpr ⟨(name, found), later, same⟩
      have rest := ih (insertSome before field.1 field.2) distinctLater later
      rw [before.getAll_insertSome_of_ne different] at rest
      exact rest

/-- What headers say about a set under a name, over what they said before: the list of its names
with commas in between, unless there are none or a header cannot hold the list. -/
def Announces (before after : Headers) (name : String) (set : NameSet) : Prop :=
  ∃ names, set.Lists names ∧
    (names ≠ [] → HeaderValue.IsLegal (Text.join ", " names) →
      after.Carries name (Text.join ", " names)) ∧
    (names = [] ∨ ¬ HeaderValue.IsLegal (Text.join ", " names) →
      after.getAll name = before.getAll name)

theorem carries_of_getAll {after : Headers} {text : String} {value : HeaderValue}
    (made : HeaderValue.ofText? text = some value) (left : after.getAll name = [value]) :
    after.Carries name text :=
  ⟨value, left, HeaderValue.ofText?_eq_some_iff.mp made⟩

/-- The field for a set announces the set. -/
theorem announces_insertAll {fields : List (String × Option HeaderValue)} {set : NameSet}
    (distinct : (fields.map (·.1)).Nodup) (member : (name, CorsPolicy.joined? set) ∈ fields) :
    before.Announces (before.insertAll fields) name set := by
  have left := getAll_insertAll_of_mem before distinct member
  refine ⟨set.names, set.lists_names, ?_, ?_⟩
  · intro filled legal
    obtain ⟨value, made⟩ := HeaderValue.isLegal_iff.mp legal
    rw [CorsPolicy.joined?, if_neg filled, made] at left
    exact carries_of_getAll made left
  · intro unlisted
    have nothing : CorsPolicy.joined? set = none := by
      rw [CorsPolicy.joined?]
      split
      · rfl
      next filled =>
        exact HeaderValue.ofText?_eq_none_iff.mpr (unlisted.resolve_left filled)
    rw [nothing] at left
    exact left

end Headers

namespace CorsPolicy

variable {policy : CorsPolicy} {origin : String} {sent : HeaderValue}

/-- The fields by which a client learns that its origin is admitted. -/
def originFields (policy : CorsPolicy) (origin : String) : List (String × Option HeaderValue) :=
  [(HeaderName.allowOrigin, policy.origins.header? origin),
    (HeaderName.allowCredentials,
      if policy.credentials then HeaderValue.ofText? "true" else none)]

/-- The fields of an approval. -/
def approvalFields (policy : CorsPolicy) (origin : String) : List (String × Option HeaderValue) :=
  policy.originFields origin ++
    [(HeaderName.allowMethods, joined? policy.methods),
      (HeaderName.allowHeaders, joined? policy.headers),
      (HeaderName.maxAge, policy.maxAge.bind fun seconds => HeaderValue.ofText? (toString seconds)),
      (HeaderName.vary, HeaderValue.ofText?
        "Origin, Access-Control-Request-Method, Access-Control-Request-Headers")]

/-- The fields that are put into the response to any other request. -/
def decorationFields (policy : CorsPolicy) (origin : String) :
    List (String × Option HeaderValue) :=
  policy.originFields origin ++
    [(HeaderName.exposeHeaders, joined? policy.exposed),
      (HeaderName.vary, HeaderValue.ofText? "Origin")]

theorem insertOrigin_eq (policy : CorsPolicy) (origin : String) (headers : Headers) :
    policy.insertOrigin origin headers = headers.insertAll (policy.originFields origin) := by
  unfold insertOrigin originFields
  split <;> rfl

theorem approval_eq (policy : CorsPolicy) (origin : String) :
    policy.approval origin =
      { status := 204, headers := Headers.insertAll {} (policy.approvalFields origin) } := by
  rw [approval, insertOrigin_eq, approvalFields, Headers.insertAll, Headers.insertAll,
    List.foldl_append]
  rfl

theorem decorate_of_admits (admitted : policy.origins.admits origin = true) (response : Response) :
    policy.decorate origin response =
      { response with
        headers := response.headers.insertAll (policy.decorationFields origin) } := by
  rw [decorate, if_pos admitted, insertOrigin_eq, decorationFields, Headers.insertAll,
    Headers.insertAll, List.foldl_append]
  rfl

theorem decorate_of_not_admits (refused : policy.origins.admits origin = false)
    (response : Response) : policy.decorate origin response = response := by
  rw [decorate, refused]
  rfl

theorem map_fst_approvalFields (policy : CorsPolicy) (origin : String) :
    (policy.approvalFields origin).map (·.1) =
      [HeaderName.allowOrigin, HeaderName.allowCredentials, HeaderName.allowMethods,
        HeaderName.allowHeaders, HeaderName.maxAge, HeaderName.vary] := rfl

theorem map_fst_decorationFields (policy : CorsPolicy) (origin : String) :
    (policy.decorationFields origin).map (·.1) =
      [HeaderName.allowOrigin, HeaderName.allowCredentials, HeaderName.exposeHeaders,
        HeaderName.vary] := rfl

theorem nodup_approvalFields (policy : CorsPolicy) (origin : String) :
    ((policy.approvalFields origin).map (·.1)).Nodup := by
  rw [map_fst_approvalFields]
  decide

theorem nodup_decorationFields (policy : CorsPolicy) (origin : String) :
    ((policy.decorationFields origin).map (·.1)).Nodup := by
  rw [map_fst_decorationFields]
  decide

/-- What headers say to a client whose origin is admitted, over what they said before, if the origin
was sent in this value. -/
structure ShowsOrigin (policy : CorsPolicy) (sent : HeaderValue) (before after : Headers) :
    Prop where
  any : policy.origins = .any → after.Carries HeaderName.allowOrigin "*"
  listed : policy.origins ≠ .any → after.getAll HeaderName.allowOrigin = [sent]
  credentials : policy.credentials = true → after.Carries HeaderName.allowCredentials "true"
  noCredentials : policy.credentials = false →
    after.getAll HeaderName.allowCredentials = before.getAll HeaderName.allowCredentials

/-- An origin that is admitted can always be named: it has been read from a header itself. -/
theorem header?_of_admits {origins : AllowedOrigins} (admitted : origins.admits origin = true)
    (spelt : sent.Spells origin) (listed : origins ≠ .any) :
    origins.header? origin = some sent := by
  cases origins with
  | any => contradiction
  | listed names =>
    have made := HeaderValue.ofText?_eq_some_iff.mpr spelt
    exact (if_pos admitted).trans made

/-- Fields that begin with those for the origin show it. -/
theorem showsOrigin_insertAll {others : List (String × Option HeaderValue)} {before : Headers}
    (distinct : ((policy.originFields origin ++ others).map (·.1)).Nodup)
    (admitted : policy.origins.admits origin = true) (spelt : sent.Spells origin) :
    policy.ShowsOrigin sent before (before.insertAll (policy.originFields origin ++ others)) := by
  have opens : policy.originFields origin ⊆ policy.originFields origin ++ others :=
    List.subset_append_left _ _
  have allowed := Headers.getAll_insertAll_of_mem before distinct (opens List.mem_cons_self)
  have credited := Headers.getAll_insertAll_of_mem before distinct
    (opens (List.mem_cons_of_mem _ List.mem_cons_self))
  constructor
  · intro any
    obtain ⟨star, made⟩ := HeaderValue.isLegal_iff.mp (show HeaderValue.IsLegal "*" from rfl)
    rw [any, AllowedOrigins.header?, made] at allowed
    exact Headers.carries_of_getAll made allowed
  · intro listed
    rw [header?_of_admits admitted spelt listed] at allowed
    exact allowed
  · intro given
    obtain ⟨yes, made⟩ := HeaderValue.isLegal_iff.mp (show HeaderValue.IsLegal "true" from rfl)
    rw [if_pos given, made] at credited
    exact Headers.carries_of_getAll made credited
  · intro withheld
    rw [withheld] at credited
    exact credited

end CorsPolicy

end RouteProbe
