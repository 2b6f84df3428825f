import RouteProbe.Proofs.Lookup.GuardedRuns

/-! # Nested scopes

A scope saves one attribute, or the two that hold answers, while something is run, and puts them
back afterwards. Scopes are left in the opposite order of their entering, since each of them is
entered and left within the one around it. Main statement: what is left of a run with scopes is what
was changed while no scope around it had saved it, so that names which are changed only while they
are saved are in the end as they were before the outermost scope.
-/

namespace RouteProbe

variable {σ α : Type}

/-- What a scope saves. -/
inductive AttributeScope
  /-- One attribute, which another value may take the place of. -/
  | single (name : String) (value : Option AttributeValue)
  /-- The two attributes that hold answers. -/
  | answers

namespace AttributeScope

def names : AttributeScope → List String
  | single name _ => [name]
  | answers => [AttributeName.boundRouter, AttributeName.corsOutcome]

/-- Runs something in a scope. -/
def around : AttributeScope → (Visit σ → α × Visit σ) → Visit σ → α × Visit σ
  | single name value, body, visit => visit.keepingAttribute name value body
  | answers, body, visit => visit.keepingAnswers body

/-- Runs something in scopes, the first of which is the outermost. -/
def nest (scopes : List AttributeScope) (body : Visit σ → α × Visit σ) : Visit σ → α × Visit σ :=
  scopes.foldr around body

/-- The visit inside a scope. -/
def enter : AttributeScope → Visit σ → Visit σ
  | single name (some value), visit => visit.mapRequest (·.setAttribute name value)
  | single _ none, visit => visit
  | answers, visit => visit

variable {scope : AttributeScope} {name : String}

theorem attribute?_enter (other : name ∉ scope.names) (visit : Visit σ) :
    (scope.enter visit).request.attribute? name = visit.request.attribute? name := by
  cases scope with
  | single saved value =>
    cases value with
    | none => rfl
    | some value =>
      exact Request.attribute?_setAttribute_of_ne _ (List.ne_of_not_mem_cons other) value
  | answers => rfl

theorem attribute?_around_of_mem (saved : name ∈ scope.names) (body : Visit σ → α × Visit σ)
    (visit : Visit σ) :
    (scope.around body visit).2.request.attribute? name = visit.request.attribute? name := by
  cases scope with
  | single saving value =>
    obtain rfl := List.mem_singleton.mp saved
    exact Request.attribute?_restoreAttribute_self _ _ _
  | answers =>
    have kept : CacheSnapshot.take (answers.around body visit).2.request =
        CacheSnapshot.take visit.request := CacheSnapshot.take_restore _ _
    obtain ⟨router, policy⟩ := CacheSnapshot.take_eq_take_iff.mp kept
    rcases List.mem_cons.mp saved with rfl | second
    · exact router
    · obtain rfl := List.mem_singleton.mp second
      exact policy

theorem attribute?_around_of_not_mem (other : name ∉ scope.names) (body : Visit σ → α × Visit σ)
    (visit : Visit σ) :
    (scope.around body visit).2.request.attribute? name =
      (body (scope.enter visit)).2.request.attribute? name := by
  cases scope with
  | single saving value =>
    have different := List.ne_of_not_mem_cons other
    cases value <;> exact Request.attribute?_restoreAttribute_of_ne _ different _
  | answers =>
    have router := List.ne_of_not_mem_cons other
    have policy := List.ne_of_not_mem_cons (List.not_mem_of_not_mem_cons other)
    exact CacheSnapshot.attribute?_restore _ _ router policy

/-- Whatever is run in scopes, all that they save is as it was before the outermost of them. -/
theorem attribute?_nest {scopes : List AttributeScope} (saves : scope ∈ scopes)
    (saved : name ∈ scope.names) (body : Visit σ → α × Visit σ) (visit : Visit σ) :
    (nest scopes body visit).2.request.attribute? name = visit.request.attribute? name := by
  induction scopes generalizing visit with
  | nil => exact absurd saves List.not_mem_nil
  | cons outer inner ih =>
    by_cases outside : name ∈ outer.names
    · exact attribute?_around_of_mem outside (nest inner body) visit
    · have further : scope ∈ inner := by
        rcases List.mem_cons.mp saves with rfl | member
        · exact absurd saved outside
        · exact member
      calc (nest (outer :: inner) body visit).2.request.attribute? name
          = (nest inner body (outer.enter visit)).2.request.attribute? name :=
            attribute?_around_of_not_mem outside (nest inner body) visit
        _ = (outer.enter visit).request.attribute? name := ih further _
        _ = visit.request.attribute? name := attribute?_enter outside visit

end AttributeScope

/-- What is done to the attributes of a request in the course of a run, with scopes anywhere
in it. -/
inductive ScopedWork
  | done
  | change (write : AttributeWrite) (rest : ScopedWork)
  | within (scope : AttributeScope) (inner rest : ScopedWork)

namespace ScopedWork

/-- Does the work. -/
def run : ScopedWork → Visit σ → Visit σ
  | done, visit => visit
  | change write rest, visit =>
    rest.run (visit.mapRequest (·.restoreAttribute write.name write.left))
  | within scope inner rest, visit =>
    rest.run (scope.around (fun visit => ((), inner.run visit)) visit).2

/-- The changes that no scope takes back: those of names that no scope around them has saved. -/
def lasting : ScopedWork → List AttributeWrite
  | done => []
  | change write rest => write :: rest.lasting
  | within scope inner rest =>
    inner.lasting.filter (fun write => decide (write.name ∉ scope.names)) ++ rest.lasting

/-- A name is changed only while some scope has it saved. -/
def Guards (name : String) : ScopedWork → Prop
  | done => True
  | change write rest => write.name ≠ name ∧ rest.Guards name
  | within scope inner rest => (name ∈ scope.names ∨ inner.Guards name) ∧ rest.Guards name

/-- What is found under a name after the work is what the last lasting change has left there, or
what was there before. -/
theorem attribute?_run (work : ScopedWork) (visit : Visit σ) (name : String) :
    (work.run visit).request.attribute? name =
      (AttributeWrite.lastLeft? name work.lasting).getD (visit.request.attribute? name) := by
  -- A scope hides the changes inside of the names that it saves, and lets all others out.
  induction work generalizing visit with
  | done => rfl
  | change write rest ih =>
    rw [run, ih, Visit.mapRequest, Request.attribute?_restoreAttribute, lasting,
      AttributeWrite.lastLeft?]
    cases AttributeWrite.lastLeft? name rest.lasting with
    | some left => rfl
    | none =>
      rw [Option.none_or]
      split <;> rfl
  | within scope inner rest ihInner ihRest =>
    have filtered := AttributeWrite.lastLeft?_filter name inner.lasting
      fun name => decide (name ∉ scope.names)
    rw [run, ihRest, lasting, AttributeWrite.lastLeft?_append, filtered]
    by_cases saved : name ∈ scope.names
    · rw [AttributeScope.attribute?_around_of_mem saved]
      simp [saved]
    · rw [AttributeScope.attribute?_around_of_not_mem saved, ihInner,
        AttributeScope.attribute?_enter saved]
      cases AttributeWrite.lastLeft? name rest.lasting <;> simp [saved]

/-- No change of a name lasts if and only if the name is guarded. -/
theorem lastLeft?_lasting_eq_none_iff {work : ScopedWork} {name : String} :
    AttributeWrite.lastLeft? name work.lasting = none ↔ work.Guards name := by
  induction work with
  | done => simp [lasting, Guards, AttributeWrite.lastLeft?]
  | change write rest ih =>
    rw [lasting, AttributeWrite.lastLeft?, Option.or_eq_none_iff, ih, Guards, and_comm]
    simp [eq_comm]
  | within scope inner rest ihInner ihRest =>
    have filtered := AttributeWrite.lastLeft?_filter name inner.lasting
      fun name => decide (name ∉ scope.names)
    rw [lasting, AttributeWrite.lastLeft?_append, Option.or_eq_none_iff, ihRest, filtered, Guards,
      and_comm, ← ihInner]
    by_cases saved : name ∈ scope.names <;> simp [saved]

theorem attribute?_run_of_guards {work : ScopedWork} {name : String} (guarded : work.Guards name)
    (visit : Visit σ) :
    (work.run visit).request.attribute? name = visit.request.attribute? name := by
  rw [attribute?_run, lastLeft?_lasting_eq_none_iff.mpr guarded, Option.getD_none]

end ScopedWork

/-- Attributes that have been saved are put back exactly. Whatever is written under saved names, all
of them are as before once the saved values are back, in whatever order these are put back. Whatever
is run in nested scopes, the names that any of them saves are in the end as they were before the
outermost one. And where scopes stand anywhere between changes, nothing is left but the changes that
no scope around them has saved, so that names changed only while they are saved are as before. -/
theorem AttributeScope.putsBack_saved :
    (∀ (attributes : Attributes) (names : List String) (changes order : List AttributeWrite),
      (∀ change ∈ changes, change.name ∈ names) →
      order.Perm (AttributeWrite.saving attributes names) →
      AttributeWrite.applyAll order (AttributeWrite.applyAll changes attributes) = attributes) ∧
    (∀ (σ α : Type) (scopes : List AttributeScope) (body : Visit σ → α × Visit σ) (visit : Visit σ),
      ∀ scope ∈ scopes, ∀ name ∈ scope.names,
        (nest scopes body visit).2.request.attribute? name = visit.request.attribute? name) ∧
    ∀ (σ : Type) (work : ScopedWork) (visit : Visit σ) (name : String),
      (work.run visit).request.attribute? name =
        (AttributeWrite.lastLeft? name work.lasting).getD (visit.request.attribute? name) ∧
      (work.Guards name →
        (work.run visit).request.attribute? name = visit.request.attribute? name) := by
  refine ⟨?written, ?nested, ?worked⟩
  case written =>
    intro attributes names changes order saved arranged
    exact AttributeWrite.applyAll_saving attributes saved arranged
  case nested =>
    intro σ α scopes body visit scope saves name saved
    exact attribute?_nest saves saved body visit
  case worked =>
    intro σ work visit name
    exact ⟨work.attribute?_run visit name, fun guarded => work.attribute?_run_of_guards guarded visit⟩

section

private abbrev quayAttributes : Attributes := NameMap.empty.insert "berth" (.text "north")

/-- A name that is there, one that is not, and the first one again. -/
private abbrev quayNames : List String := ["berth", "crane", "berth"]

private abbrev quayChanges : List AttributeWrite :=
  [⟨"crane", some (.natural 4)⟩, ⟨"berth", none⟩, ⟨"berth", some (.foreign 1)⟩]

/-- Two scopes on one name, the outer of which leaves something there for the inner one to find. -/
private abbrev quayScopes : List AttributeScope :=
  [.single AttributeName.corsOutcome (some (.foreign 2)), .answers]

private abbrev quayVisit : Visit Unit where
  request := { uri := ⟨none, none, "/quay", none⟩, attributes := quayAttributes }
  host := ()

/-- Between the entering of two scopes a name is changed that only the outer one has saved. -/
private abbrev quayWork : ScopedWork :=
  .within (.single "crane" none)
    (.change ⟨"crane", some (.flag true)⟩
      (.within (.single "berth" none)
        (.change ⟨"berth", none⟩ (.change ⟨"crane", none⟩ .done))
        .done))
    (.change ⟨"ferry", some (.foreign 3)⟩ .done)

/-- The saved values are put back from the last to the first. There is no policy again although the
inner scope has put back another value, and of the work only the ferry stays. -/
theorem AttributeScope.putsBack_saved_quay :
    AttributeWrite.applyAll (AttributeWrite.saving quayAttributes quayNames).reverse
        (AttributeWrite.applyAll quayChanges quayAttributes) = quayAttributes ∧
      (nest quayScopes
        (fun visit => ((), visit.mapRequest (·.setAttribute AttributeName.corsOutcome (.flag true))))
        quayVisit).2.request.attribute? AttributeName.corsOutcome = none ∧
      (quayWork.run quayVisit).request.attribute? "crane" = none ∧
      (quayWork.run quayVisit).request.attribute? "ferry" = some (.foreign 3) := by
  obtain ⟨written, nested, worked⟩ := AttributeScope.putsBack_saved
  refine ⟨?written, ?nested, ?guarded, ?left⟩
  case written =>
    exact written quayAttributes quayNames quayChanges _ (by decide) (List.reverse_perm _)
  case nested =>
    have inner : quayScopes[1] ∈ quayScopes := List.getElem_mem (by decide)
    exact nested Unit Unit quayScopes _ quayVisit _ inner _ (List.mem_cons_of_mem _ List.mem_cons_self)
  case guarded =>
    have guards : quayWork.Guards "crane" := by simp [ScopedWork.Guards, names]
    exact (worked Unit quayWork quayVisit "crane").2 guards
  case left => exact (worked Unit quayWork quayVisit "ferry").1

end

end RouteProbe
