import RouteProbe.Lookup.Bound

/-! # Remembered answers

What introspection has found out about a request can be left on the request itself, in two
attributes: the bound router, and the outcome of the policy lookup, which may be that there is no
policy. Whoever leaves something there puts back later what was there before, whatever it was.
-/

namespace RouteProbe

namespace Store

/-- The bound router left on a request. -/
def remembered? (store : Store) (request : Request) : Option BoundRouter := do
  let number ← (← request.attribute? AttributeName.boundRouter).boundRouter?
  store.bound[number]?

/-- Leaves a bound router and the outcome of a policy lookup on a request. -/
def remember (store : Store) (request : Request) (bound : BoundRouter)
    (policy : Option CorsPolicy) : Request × Store :=
  let (number, store) := store.keep bound
  ((request.setAttribute AttributeName.boundRouter (.boundRouter number)).setAttribute
    AttributeName.corsOutcome (.corsOutcome policy), store)

end Store

namespace Request

/-- The outcome of a policy lookup left on the request. -/
def rememberedPolicy? (request : Request) : Option (Option CorsPolicy) :=
  (request.attribute? AttributeName.corsOutcome).bind AttributeValue.corsOutcome?

def forgetAnswers (request : Request) : Request :=
  (request.removeAttribute AttributeName.boundRouter).removeAttribute AttributeName.corsOutcome

end Request

/-- What the two attributes of a request held at some moment. -/
structure CacheSnapshot where
  router : Option AttributeValue := none
  policy : Option AttributeValue := none
  deriving DecidableEq, Repr

namespace CacheSnapshot

/-- What the two attributes hold now. -/
def take (request : Request) : CacheSnapshot :=
  ⟨request.attribute? AttributeName.boundRouter, request.attribute? AttributeName.corsOutcome⟩

def restore (snapshot : CacheSnapshot) (request : Request) : Request :=
  (request.restoreAttribute AttributeName.boundRouter snapshot.router).restoreAttribute
    AttributeName.corsOutcome snapshot.policy

def isEmpty (snapshot : CacheSnapshot) : Bool := snapshot.router.isNone && snapshot.policy.isNone

def describe (snapshot : CacheSnapshot) : String :=
  "CacheSnapshot \x7b router: " ++ toString snapshot.router.isSome ++
    ", cors: " ++ toString snapshot.policy.isSome ++ " \x7d"

end CacheSnapshot

/-- A request on its way, with the store, and with whatever the surroundings keep about it. -/
structure Visit (σ : Type) where
  request : Request
  store : Store := {}
  host : σ

namespace Visit

variable {σ α : Type}

def mapRequest (change : Request → Request) (visit : Visit σ) : Visit σ :=
  { visit with request := change visit.request }

def notify (visit : Visit σ) (notice : Notice) : Visit σ :=
  { visit with store := visit.store.notify notice }

def keepingAnswers (visit : Visit σ) (body : Visit σ → α × Visit σ) : α × Visit σ :=
  let snapshot := CacheSnapshot.take visit.request
  let (result, visit) := body visit
  (result, visit.mapRequest snapshot.restore)

/-- Runs something with a value left under a name, if there is one, and puts what was there before
back afterwards. -/
def keepingAttribute (visit : Visit σ) (name : String) (value : Option AttributeValue)
    (body : Visit σ → α × Visit σ) : α × Visit σ :=
  let displaced := visit.request.attribute? name
  let inside := match value with
    | some value => visit.mapRequest (·.setAttribute name value)
    | none => visit
  let (result, visit) := body inside
  (result, visit.mapRequest (·.restoreAttribute name displaced))

end Visit

def Store.describeScope (store : Store) (request : Request) (snapshot : CacheSnapshot) : String :=
  "CacheScope \x7b matchable_router: " ++
    (match store.remembered? request with
      | some bound => "Some(" ++ bound.describe ++ ")"
      | none => "None") ++
    ", snapshot: Some(" ++ snapshot.describe ++ ") \x7d"

end RouteProbe
