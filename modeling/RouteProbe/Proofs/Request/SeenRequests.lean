import RouteProbe.Proofs.Request.Probes

/-! # Requests as they are seen

Those who are asked about a request see its head and its attributes, and change nothing but the
attributes. What they see may be the request itself, or a request isolated from it, or one isolated
from that one again. Main statement: a request that is isolated starts with all attributes of the
one behind it, and whatever is done to it after that is done to plain attributes.
-/

namespace RouteProbe

/-- The parts of a request that nobody who is asked about it changes. -/
structure RequestHead where
  method : Method
  uri : Uri
  headers : Headers
  contextPath : String
  deriving DecidableEq, Repr

def Request.head (request : Request) : RequestHead :=
  ⟨request.method, request.uri, request.headers, request.contextPath⟩

/-- A request as it is seen: by itself, or through attributes of its own in front of another one. -/
inductive SeenRequest
  | plain (request : Request)
  | isolated (base : SeenRequest) (attributes : Attributes)

namespace SeenRequest

/-- The head is that of the request at the bottom. -/
def head : SeenRequest → RequestHead
  | plain request => request.head
  | isolated base _ => base.head

/-- The attributes that are seen. -/
def attributes : SeenRequest → Attributes
  | plain request => request.attributes
  | isolated _ attributes => attributes

/-- The request that this one is isolated from. -/
def base? : SeenRequest → Option SeenRequest
  | plain _ => none
  | isolated base _ => some base

def attribute? : SeenRequest → String → Option AttributeValue
  | plain request, name => request.attribute? name
  | isolated _ attributes, name => attributes.get? name

def attributeNames : SeenRequest → List String
  | plain request => request.attributeNames
  | isolated _ attributes => attributes.names

/-- Leaves a value where it is seen, and no further down. -/
def setAttribute : SeenRequest → String → AttributeValue → SeenRequest
  | plain request, name, value => .plain (request.setAttribute name value)
  | isolated base attributes, name, value => .isolated base (attributes.insert name value)

def removeAttribute : SeenRequest → String → SeenRequest
  | plain request, name => .plain (request.removeAttribute name)
  | isolated base attributes, name => .isolated base (attributes.erase name)

def gather (seen : SeenRequest) : Attributes :=
  seen.attributeNames.foldl
    (fun gathered name =>
      match seen.attribute? name with
      | some value => gathered.insert name value
      | none => gathered)
    .empty

/-- Isolates what is seen, asking those who will see it to suppress logging if wanted. -/
def isolate (seen : SeenRequest) (suppressed : Bool) : SeenRequest :=
  .isolated seen
    (if suppressed then seen.gather.insert AttributeName.suppressLogging (.flag true) else seen.gather)

def toRequest : SeenRequest → Request
  | plain request => request
  | isolated base attributes => { base.toRequest with attributes }

/-- What is seen once other attributes have taken the place of all that were seen. -/
def withAttributes : SeenRequest → Attributes → SeenRequest
  | plain request, attributes => .plain { request with attributes }
  | isolated base _, attributes => .isolated base attributes

@[simp] theorem attributes_toRequest (seen : SeenRequest) :
    seen.toRequest.attributes = seen.attributes := by
  cases seen <;> rfl

@[simp] theorem attributes_withAttributes (seen : SeenRequest) (attributes : Attributes) :
    (seen.withAttributes attributes).attributes = attributes := by
  cases seen <;> rfl

@[simp] theorem head_withAttributes (seen : SeenRequest) (attributes : Attributes) :
    (seen.withAttributes attributes).head = seen.head := by
  cases seen <;> rfl

@[simp] theorem withAttributes_attributes (seen : SeenRequest) :
    seen.withAttributes seen.attributes = seen := by
  cases seen <;> rfl

@[simp] theorem withAttributes_withAttributes (seen : SeenRequest) (first second : Attributes) :
    (seen.withAttributes first).withAttributes second = seen.withAttributes second := by
  cases seen <;> rfl

theorem gather_eq_attributes (seen : SeenRequest) : seen.gather = seen.attributes := by
  have shown : seen.gather = IsolatedRequest.gather seen.toRequest := by cases seen <;> rfl
  rw [shown, IsolatedRequest.gather_eq, attributes_toRequest]

theorem isolate_eq (seen : SeenRequest) (suppressed : Bool) :
    seen.isolate suppressed = .isolated seen
      (if suppressed then seen.attributes.insert AttributeName.suppressLogging (.flag true)
        else seen.attributes) := by
  rw [isolate, gather_eq_attributes]

/-- Isolating what is seen shows what isolating the request shows. -/
theorem toRequest_isolate (seen : SeenRequest) (suppressed : Bool) :
    (seen.isolate suppressed).toRequest = (IsolatedRequest.of seen.toRequest suppressed).toRequest := by
  rw [isolate_eq, IsolatedRequest.of, IsolatedRequest.gather_eq, attributes_toRequest]
  rfl

end SeenRequest

/-- One thing that is done with attributes. -/
inductive AttributeAccess
  | read (name : String)
  | write (name : String) (value : AttributeValue)
  | remove (name : String)
  | list
  deriving DecidableEq, Repr

/-- What is learnt by it. -/
inductive AttributeReply
  /-- What is found under a name, or was found there before it was removed. -/
  | found (value : Option AttributeValue)
  | names (names : List String)
  | done
  deriving DecidableEq, Repr

namespace AttributeAccess

/-- Accesses plain attributes. -/
def onAttributes : AttributeAccess → Attributes → AttributeReply × Attributes
  | read name, attributes => (.found (attributes.get? name), attributes)
  | write name value, attributes => (.done, attributes.insert name value)
  | remove name, attributes => (.found (attributes.get? name), attributes.erase name)
  | list, attributes => (.names attributes.names, attributes)

/-- Accesses the attributes of a request as it is seen. -/
def onSeen : AttributeAccess → SeenRequest → AttributeReply × SeenRequest
  | read name, seen => (.found (seen.attribute? name), seen)
  | write name value, seen => (.done, seen.setAttribute name value)
  | remove name, seen => (.found (seen.attribute? name), seen.removeAttribute name)
  | list, seen => (.names seen.attributeNames, seen)

/-- Accesses something again and again, and gathers what is learnt. -/
def performAll {τ : Type} (perform : AttributeAccess → τ → AttributeReply × τ) :
    List AttributeAccess → τ → List AttributeReply × τ
  | [], state => ([], state)
  | access :: rest, state =>
    let (reply, state) := perform access state
    let (replies, state) := performAll perform rest state
    (reply :: replies, state)

/-- What many accesses leave is left by one after another. -/
theorem performAll_snd {τ : Type} (perform : AttributeAccess → τ → AttributeReply × τ)
    (accesses : List AttributeAccess) (state : τ) :
    (performAll perform accesses state).2 =
      accesses.foldl (fun state access => (perform access state).2) state := by
  induction accesses generalizing state with
  | nil => rfl
  | cons access rest ih => exact ih (perform access state).2

/-- One access to what is seen is one access to the attributes that are seen. -/
theorem onSeen_eq (access : AttributeAccess) (seen : SeenRequest) :
    access.onSeen seen =
      ((access.onAttributes seen.attributes).1,
        seen.withAttributes (access.onAttributes seen.attributes).2) := by
  cases access <;> cases seen <;> rfl

/-- So are any number of them. -/
theorem performAll_onSeen (accesses : List AttributeAccess) (seen : SeenRequest) :
    performAll onSeen accesses seen =
      ((performAll onAttributes accesses seen.attributes).1,
        seen.withAttributes (performAll onAttributes accesses seen.attributes).2) := by
  induction accesses generalizing seen with
  | nil => simp only [performAll, SeenRequest.withAttributes_attributes]
  | cons access rest ih =>
    simp only [performAll, onSeen_eq, ih, SeenRequest.attributes_withAttributes,
      SeenRequest.withAttributes_withAttributes]

end AttributeAccess

end RouteProbe
