import RouteProbe.Pipeline.CorsStage
import RouteProbe.Proofs.Text.LetterCase

/-! # What a row of settings makes of a policy

Settings of a policy come in three kinds. Origins add up, the admission of any origin absorbs all of
them, before it and after it, and of every other field only the last setting counts. So a policy can
be told from a row of settings without going through the row (`CorsPolicy.Reflects`), and rows that
give the same sets make the same policy.
-/

namespace RouteProbe

/-! ## Sets of names -/

namespace NameSet

theorem contains_insert (set : NameSet) (added name : String) :
    (set.insert added ()).contains name = true ↔ name = added ∨ set.contains name = true := by
  by_cases same : name = added
  · subst same
    simp [NameMap.contains]
  · simp [NameMap.contains, set.get?_insert_of_ne same, same]

/-- The set of a list has the names in the list, in whatever order and however often they stand
there. -/
theorem contains_ofList (names : List String) (name : String) :
    (ofList names).contains name = true ↔ name ∈ names := by
  have grown (names : List String) (set : NameSet) :
      (names.foldl (fun set name => set.insert name ()) set).contains name = true ↔
        name ∈ names ∨ set.contains name = true := by
    induction names generalizing set with
    | nil => simp
    | cons first rest ih =>
      rw [List.foldl_cons, ih, contains_insert, List.mem_cons, or_left_comm, or_assoc]
  have none : (NameMap.empty : NameSet).contains name = false := rfl
  rw [ofList, grown, none, Bool.false_eq_true, or_false]

/-- Sets with the same names are equal. -/
theorem ext_contains {left right : NameSet}
    (same : ∀ name, left.contains name = true ↔ right.contains name = true) : left = right := by
  refine NameMap.ext_get? fun name => ?_
  have isSome := same name
  rw [NameMap.contains, NameMap.contains] at isSome
  cases here : left.get? name <;> cases there : right.get? name <;> simp_all

end NameSet

/-- Origins are known by whether any is admitted, and which ones are. -/
theorem AllowedOrigins.ext_admits {left right : AllowedOrigins} (any : left = .any ↔ right = .any)
    (same : ∀ origin, left.admits origin = true ↔ right.admits origin = true) : left = right := by
  cases left with
  | any => exact (any.mp rfl).symm
  | listed names =>
    cases right with
    | any => exact any.mpr rfl
    | listed others => rw [NameSet.ext_contains same]

/-! ## Rows of settings -/

namespace CorsSetting

def methods? : CorsSetting → Option (List Method)
  | methods given => some given
  | _ => none

def headers? : CorsSetting → Option (List String)
  | headers given => some given
  | _ => none

def exposed? : CorsSetting → Option (List String)
  | expose given => some given
  | _ => none

def credentials? : CorsSetting → Option Bool
  | credentials given => some given
  | _ => none

def maxAge? : CorsSetting → Option (Option Nat)
  | maxAge given => some given
  | _ => none

/-- What the last setting of a kind gives, or the default if there is none. -/
def last {α : Type} (given? : CorsSetting → Option α) (default : α) (settings : List CorsSetting) : α :=
  (settings.filterMap given?).getLastD default

end CorsSetting

open CorsSetting

/-! ## What settings do -/

def NameSet.ofMethods (methods : List Method) : NameSet := ofList (methods.map (·.text))

def NameSet.lowercased (names : List String) : NameSet := ofList (names.map Text.lowercase)

namespace CorsPolicy

variable {policy : CorsPolicy} {settings others : List CorsSetting}

theorem set_origin_eq (policy : CorsPolicy) (origin : String) :
    ∃ origins, policy.set (.origin origin) = { policy with origins } := by
  rw [set]
  split
  · exact ⟨policy.origins, rfl⟩
  next names _ => exact ⟨.listed (names.insert origin ()), rfl⟩

/-- A setting that gives a field replaces it, and the other settings keep it. -/
theorem set_replaces (policy : CorsPolicy) (setting : CorsSetting) :
    (policy.set setting).methods = ((methods? setting).map .ofMethods).getD policy.methods ∧
    (policy.set setting).headers = ((headers? setting).map .lowercased).getD policy.headers ∧
    (policy.set setting).exposed = ((exposed? setting).map .lowercased).getD policy.exposed ∧
    (policy.set setting).credentials = ((credentials? setting).map id).getD policy.credentials ∧
    (policy.set setting).maxAge = ((maxAge? setting).map id).getD policy.maxAge := by
  cases setting with
  | origin origin =>
    obtain ⟨origins, kept⟩ := policy.set_origin_eq origin
    rw [kept]
    exact ⟨rfl, rfl, rfl, rfl, rfl⟩
  | _ => exact ⟨rfl, rfl, rfl, rfl, rfl⟩

theorem foldl_set_eq_last {α β : Type} {field : CorsPolicy → β} {given? : CorsSetting → Option α}
    {make : α → β}
    (step : ∀ policy setting,
      field (set policy setting) = ((given? setting).map make).getD (field policy))
    {default : α} (start : field policy = make default) (settings : List CorsSetting) :
    field (settings.foldl set policy) = make (last given? default settings) := by
  induction settings generalizing policy default with
  | nil => exact start
  | cons setting rest ih =>
    have next := step policy setting
    rw [List.foldl_cons, last, List.filterMap_cons]
    cases given : given? setting with
    | none =>
      rw [given, Option.map_none, Option.getD_none, start] at next
      exact ih next
    | some value =>
      rw [given, Option.map_some, Option.getD_some] at next
      rw [List.getLastD_cons]
      exact ih next

/-- Any origin is admitted from when that is set, whatever is added before or after. -/
theorem origins_foldl_set (policy : CorsPolicy) (settings : List CorsSetting) :
    (settings.foldl set policy).origins = .any ↔ policy.origins = .any ∨ .anyOrigin ∈ settings := by
  induction settings generalizing policy with
  | nil => simp
  | cons setting rest ih =>
    rw [List.foldl_cons, ih, List.mem_cons]
    cases setting with
    | origin origin => cases found : policy.origins <;> simp [set, found]
    | _ => simp [set]

/-- An origin is admitted from when it is added or any origin is. -/
theorem admits_foldl_set (policy : CorsPolicy) (settings : List CorsSetting) (origin : String) :
    (settings.foldl set policy).origins.admits origin = true ↔
      policy.origins.admits origin = true ∨ .anyOrigin ∈ settings ∨ .origin origin ∈ settings := by
  induction settings generalizing policy with
  | nil => simp
  | cons setting rest ih =>
    rw [List.foldl_cons, ih]
    cases setting with
    | anyOrigin => simp [set, AllowedOrigins.admits]
    | origin added =>
      cases found : policy.origins with
      | any => simp [set, found, AllowedOrigins.admits]
      | listed names =>
        simp only [set, found, AllowedOrigins.admits, NameSet.contains_insert, List.mem_cons,
          reduceCtorEq, CorsSetting.origin.injEq, false_or]
        grind
    | _ => simp [set]

/-! ## What a policy is by its settings -/

/-- What a policy is by the settings that make it. -/
structure Reflects (policy : CorsPolicy) (settings : List CorsSetting) : Prop where
  any_iff : policy.origins = .any ↔ .anyOrigin ∈ settings
  admits_iff : ∀ origin, policy.origins.admits origin = true ↔
    .anyOrigin ∈ settings ∨ .origin origin ∈ settings
  methods_iff : ∀ name, policy.methods.contains name = true ↔
    ∃ method ∈ last methods? [.get, .head, .post] settings, method.text = name
  headers_iff : ∀ name, policy.headers.contains name = true ↔
    ∃ header ∈ last headers? ["*"] settings, Text.lowercase header = name
  exposed_iff : ∀ name, policy.exposed.contains name = true ↔
    ∃ header ∈ last exposed? [] settings, Text.lowercase header = name
  credentials_eq : policy.credentials = last credentials? false settings
  maxAge_eq : policy.maxAge = last maxAge? (some 1800) settings
  allowsMethod_iff : ∀ method, policy.allowsMethod method = true ↔
    method ∈ last methods? [.get, .head, .post] settings
  allowsHeader_iff : ∀ header, policy.allowsHeader header = true ↔
    "*" ∈ last headers? ["*"] settings ∨
      ∃ listed ∈ last headers? ["*"] settings, Text.lowercase listed = Text.lowercase header

theorem contains_ofMethods {methods : List Method} {name : String} :
    (NameSet.ofMethods methods).contains name = true ↔ ∃ method ∈ methods, method.text = name := by
  rw [NameSet.ofMethods, NameSet.contains_ofList, List.mem_map]

theorem contains_lowercased {names : List String} {name : String} :
    (NameSet.lowercased names).contains name = true ↔
      ∃ listed ∈ names, Text.lowercase listed = name := by
  rw [NameSet.lowercased, NameSet.contains_ofList, List.mem_map]

theorem build_eq_last (settings : List CorsSetting) :
    (build settings).methods = .ofMethods (last methods? [.get, .head, .post] settings) ∧
    (build settings).headers = .lowercased (last headers? ["*"] settings) ∧
    (build settings).exposed = .lowercased (last exposed? [] settings) ∧
    (build settings).credentials = last credentials? false settings ∧
    (build settings).maxAge = last maxAge? (some 1800) settings := by
  refine ⟨?methods, ?headers, ?exposed, ?credentials, ?maxAge⟩
  case methods => exact foldl_set_eq_last (fun policy setting => (set_replaces policy setting).1) rfl _
  case headers =>
    have star : NameSet.ofList ["*"] = .lowercased ["*"] := by rfl
    exact foldl_set_eq_last (fun policy setting => (set_replaces policy setting).2.1) star _
  case exposed =>
    exact foldl_set_eq_last (fun policy setting => (set_replaces policy setting).2.2.1) rfl _
  case credentials =>
    exact foldl_set_eq_last (fun policy setting => (set_replaces policy setting).2.2.2.1) rfl _
  case maxAge =>
    exact foldl_set_eq_last (fun policy setting => (set_replaces policy setting).2.2.2.2) rfl _

theorem reflects_build (settings : List CorsSetting) : (build settings).Reflects settings := by
  obtain ⟨methods, headers, exposed, credentials, maxAge⟩ := build_eq_last settings
  refine ⟨?any, fun origin => ?admits, fun name => ?methods, fun name => ?headers,
    fun name => ?exposed, credentials, maxAge, fun method => ?allowsMethod,
    fun header => ?allowsHeader⟩
  case any =>
    rw [build, origins_foldl_set]
    exact or_iff_right (by decide)
  case admits =>
    rw [build, admits_foldl_set]
    exact or_iff_right Bool.false_ne_true
  case methods => rw [methods, contains_ofMethods]
  case headers => rw [headers, contains_lowercased]
  case exposed => rw [exposed, contains_lowercased]
  case allowsMethod =>
    rw [allowsMethod, methods, contains_ofMethods]
    constructor
    · rintro ⟨listed, member, same⟩
      exact Method.text_inj.mp same ▸ member
    · intro member
      exact ⟨method, member, rfl⟩
  case allowsHeader =>
    rw [allowsHeader, headers, Bool.or_eq_true, contains_lowercased, contains_lowercased]
    -- Nothing but a star becomes a star in lower case.
    simp only [Text.lowercase_eq_star_iff, exists_eq_right]

/-- Whether two rows of settings give the same sets: the same admission of any origin, the same
origins unless any is admitted, and in the last settings of each other kind the same entries, in
whatever order, however often, and header names in whatever case. -/
structure SameSets (settings others : List CorsSetting) : Prop where
  any_iff : .anyOrigin ∈ settings ↔ .anyOrigin ∈ others
  origins_iff : .anyOrigin ∉ settings → ∀ origin, .origin origin ∈ settings ↔ .origin origin ∈ others
  methods_iff : ∀ method, method ∈ last methods? [.get, .head, .post] settings ↔
    method ∈ last methods? [.get, .head, .post] others
  headers_iff : ∀ name, name ∈ (last headers? ["*"] settings).map Text.lowercase ↔
    name ∈ (last headers? ["*"] others).map Text.lowercase
  exposed_iff : ∀ name, name ∈ (last exposed? [] settings).map Text.lowercase ↔
    name ∈ (last exposed? [] others).map Text.lowercase
  credentials_eq : last credentials? false settings = last credentials? false others
  maxAge_eq : last maxAge? (some 1800) settings = last maxAge? (some 1800) others

/-- Rows that make the same policy give the same sets, since each set can be read off the policy. -/
theorem sameSets_of_build_eq (same : build settings = build others) : SameSets settings others := by
  have made := reflects_build settings
  have madeToo := reflects_build others
  rw [← same] at madeToo
  refine ⟨?any, fun listed origin => ?origins, fun method => ?methods, fun name => ?headers,
    fun name => ?exposed, ?credentials, ?maxAge⟩
  case any => rw [← made.any_iff, ← madeToo.any_iff]
  case origins =>
    have listedToo : .anyOrigin ∉ others := by rwa [← madeToo.any_iff, made.any_iff]
    have admits := (made.admits_iff origin).symm.trans (madeToo.admits_iff origin)
    rwa [or_iff_right listed, or_iff_right listedToo] at admits
  case methods => rw [← made.allowsMethod_iff, ← madeToo.allowsMethod_iff]
  case headers => rw [List.mem_map, ← made.headers_iff, List.mem_map, ← madeToo.headers_iff]
  case exposed => rw [List.mem_map, ← made.exposed_iff, List.mem_map, ← madeToo.exposed_iff]
  case credentials => rw [← made.credentials_eq, ← madeToo.credentials_eq]
  case maxAge => rw [← made.maxAge_eq, ← madeToo.maxAge_eq]

theorem build_eq_of_sameSets (same : SameSets settings others) : build settings = build others := by
  have made := reflects_build settings
  have madeToo := reflects_build others
  have origins : (build settings).origins = (build others).origins := by
    apply AllowedOrigins.ext_admits
    · rw [made.any_iff, madeToo.any_iff, same.any_iff]
    · intro origin
      rw [made.admits_iff, madeToo.admits_iff, ← same.any_iff]
      by_cases any : .anyOrigin ∈ settings
      · simp only [any, true_or]
      · simp only [any, false_or, same.origins_iff any origin]
  have methods : (build settings).methods = (build others).methods := by
    apply NameSet.ext_contains
    intro name
    rw [made.methods_iff, madeToo.methods_iff]
    exact exists_congr fun method => and_congr_left' (same.methods_iff method)
  have headers : (build settings).headers = (build others).headers := by
    apply NameSet.ext_contains
    intro name
    rw [made.headers_iff, madeToo.headers_iff, ← List.mem_map, ← List.mem_map, same.headers_iff]
  have exposed : (build settings).exposed = (build others).exposed := by
    apply NameSet.ext_contains
    intro name
    rw [made.exposed_iff, madeToo.exposed_iff, ← List.mem_map, ← List.mem_map, same.exposed_iff]
  have credentials : (build settings).credentials = (build others).credentials := by
    rw [made.credentials_eq, madeToo.credentials_eq, same.credentials_eq]
  have maxAge : (build settings).maxAge = (build others).maxAge := by
    rw [made.maxAge_eq, madeToo.maxAge_eq, same.maxAge_eq]
  cases left : build settings
  cases right : build others
  simp_all

/-- A policy is what its settings say: any origin is admitted if that is set anywhere and otherwise
each origin that is added, every other field is from the last setting that gives it, and header
names match in lower case. Rows of settings make the same policy exactly if they give the same sets,
and then a stage that applies it answers every request the same. -/
theorem build_by_settings (settings others : List CorsSetting) :
    (build settings).Reflects settings ∧
    (build settings = build others ↔ SameSets settings others) ∧
    (SameSets settings others → ∀ {σ : Type} (next : Next σ) (visit : Visit σ),
      (corsStage (.ofSource fun _ => .ok (some (build settings)))).process next visit =
        (corsStage (.ofSource fun _ => .ok (some (build others)))).process next visit) := by
  refine ⟨reflects_build settings, ⟨sameSets_of_build_eq, build_eq_of_sameSets⟩,
    fun same σ next visit => ?_⟩
  rw [build_eq_of_sameSets same]

theorem build_by_settings_shuffled :
    let settings : List CorsSetting := [.origin "https://app.example", .headers ["Accept"], .anyOrigin,
      .methods [.get, .post, .get], .headers ["X-Trace", "*"], .origin "https://api.example"]
    let others : List CorsSetting := [.headers ["*", "x-trace", "X-TRACE"], .methods [.head], .anyOrigin,
      .methods [.post, .get]]
    build settings = build others ∧ ∀ (next : Next Unit) (visit : Visit Unit),
      (corsStage (.ofSource fun _ => .ok (some (build settings)))).process next visit =
        (corsStage (.ofSource fun _ => .ok (some (build others)))).process next visit := by
  intro settings others
  have same : SameSets settings others := by
    refine ⟨by decide, fun listed => absurd (by decide) listed, fun method => ?methods,
      fun name => ?headers, fun name => Iff.rfl, rfl, rfl⟩
    case methods =>
      change method ∈ [.get, .post, .get] ↔ method ∈ [.post, .get]
      grind
    case headers =>
      have given : ["X-Trace", "*"].map Text.lowercase = ["x-trace", "*"] := by decide +kernel
      have others : ["*", "x-trace", "X-TRACE"].map Text.lowercase = ["*", "x-trace", "x-trace"] := by
        decide +kernel
      change name ∈ ["X-Trace", "*"].map Text.lowercase ↔
        name ∈ ["*", "x-trace", "X-TRACE"].map Text.lowercase
      rw [given, others]
      grind
  obtain ⟨_, equal, answers⟩ := build_by_settings settings others
  exact ⟨equal.mpr same, answers same⟩

end CorsPolicy

end RouteProbe
