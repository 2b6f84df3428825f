import RouteProbe.Proofs.Request.AttributeWrites

/-! # Restored attributes

Putting an attribute back leaves under its name what was there at the earlier moment, or nothing if
there was nothing, and leaves everything else of the request alone.
-/

namespace RouteProbe.Request

theorem attribute?_restoreAttribute (request : Request) (name sought : String)
    (value : Option AttributeValue) :
    (request.restoreAttribute name value).attribute? sought =
      if sought = name then value else request.attribute? sought :=
  request.attributes.get?_setOrErase name sought value

@[simp] theorem attribute?_restoreAttribute_self (request : Request) (name : String)
    (value : Option AttributeValue) :
    (request.restoreAttribute name value).attribute? name = value := by
  rw [attribute?_restoreAttribute, if_pos rfl]

theorem attribute?_restoreAttribute_of_ne (request : Request) {name sought : String}
    (different : sought ≠ name) (value : Option AttributeValue) :
    (request.restoreAttribute name value).attribute? sought = request.attribute? sought := by
  rw [attribute?_restoreAttribute, if_neg different]

/-- What is under a name already can be put back without any effect. -/
@[simp] theorem restoreAttribute_attribute? (request : Request) (name : String) :
    request.restoreAttribute name (request.attribute? name) = request := by
  have same :
      request.attributes.setOrErase name (request.attribute? name) = request.attributes := by
    apply NameMap.ext_get?
    intro sought
    rw [NameMap.get?_setOrErase]
    split
    next found => rw [found, attribute?]
    next => rfl
  rw [restoreAttribute, same]

/-- Of two values put back under one name the second one stays. -/
@[simp] theorem restoreAttribute_restoreAttribute (request : Request) (name : String)
    (first second : Option AttributeValue) :
    (request.restoreAttribute name first).restoreAttribute name second =
      request.restoreAttribute name second := by
  have same : (request.attributes.setOrErase name first).setOrErase name second =
      request.attributes.setOrErase name second := by
    apply NameMap.ext_get?
    intro sought
    simp only [NameMap.get?_setOrErase]
    split <;> rfl
  simp only [restoreAttribute, same]

/-- What has been put under a name goes again when the value from before is put back. -/
theorem restoreAttribute_setAttribute (request : Request) (name : String) (value : AttributeValue) :
    (request.setAttribute name value).restoreAttribute name (request.attribute? name) = request := by
  change (request.restoreAttribute name (some value)).restoreAttribute name _ = request
  rw [restoreAttribute_restoreAttribute, restoreAttribute_attribute?]

end RouteProbe.Request
