import RouteProbe.Lookup.Probe
import RouteProbe.Proofs.Results
import RouteProbe.Request.Paths

/-! # The two path attributes

What is left of the split path and of the lookup path when other attributes change. The lookup path
that a request carries is never on the probe made of it.
-/

namespace RouteProbe.Request

@[simp] theorem attribute?_setAttribute_self (request : Request) (name : String)
    (value : AttributeValue) : (request.setAttribute name value).attribute? name = some value :=
  request.attributes.get?_insert_self name value

theorem attribute?_setAttribute_of_ne (request : Request) {name sought : String}
    (different : sought ≠ name) (value : AttributeValue) :
    (request.setAttribute name value).attribute? sought = request.attribute? sought :=
  request.attributes.get?_insert_of_ne different value

@[simp] theorem attribute?_removeAttribute_self (request : Request) (name : String) :
    (request.removeAttribute name).attribute? name = none :=
  request.attributes.get?_erase_self name

theorem parsedPath_ne_lookupPath : AttributeName.parsedPath ≠ AttributeName.lookupPath := by
  decide

@[simp] theorem parsedPath?_setAttribute_parsedPath (request : Request) (path : RequestPath) :
    (request.setAttribute AttributeName.parsedPath (.requestPath path)).parsedPath? = some path := by
  rw [parsedPath?, attribute?_setAttribute_self]
  rfl

@[simp] theorem parsedPath?_setAttribute_lookupPath (request : Request) (value : AttributeValue) :
    (request.setAttribute AttributeName.lookupPath value).parsedPath? = request.parsedPath? := by
  rw [parsedPath?, attribute?_setAttribute_of_ne request parsedPath_ne_lookupPath]
  rfl

@[simp] theorem lookupPath?_setAttribute_lookupPath (request : Request) (path : String) :
    (request.setAttribute AttributeName.lookupPath (.text path)).lookupPath? = some path := by
  rw [lookupPath?, attribute?_setAttribute_self]
  rfl

theorem requireParsedPath_eq_ok_iff {request : Request} {path : RequestPath} :
    request.requireParsedPath = .ok path ↔ request.parsedPath? = some path := by
  unfold requireParsedPath
  split <;> simp_all

theorem requireLookupPath_eq_ok_iff {request : Request} {path : String} :
    request.requireLookupPath = .ok path ↔ request.lookupPath? = some path := by
  unfold requireLookupPath
  split <;> simp_all

/-- No lookup path is passed on to a probe. -/
@[simp] theorem attribute?_probe_lookupPath (request : Request) (suppressed : Bool) :
    (request.probe suppressed).attribute? AttributeName.lookupPath = none :=
  attribute?_removeAttribute_self _ _

end RouteProbe.Request
