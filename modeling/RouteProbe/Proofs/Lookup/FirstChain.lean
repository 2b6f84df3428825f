import RouteProbe.Proofs.Lookup.Passages
import RouteProbe.Proofs.Request.AttributeWrites
import RouteProbe.Proofs.Request.PathAttributes

/-! # The first chain of a pass

Up to the router that answers with the first chain, each router asked in a pass makes its writes to
the probe. What the answering router leaves on it is what it has written itself or, where it has
written nothing, what was written last before.
-/

namespace RouteProbe

open AttributeWrite

/-- An entry of a registry together with the writes that its router makes to a probe. -/
structure RecordedEntry where
  entry : RegisteredRouter
  writes : Request → List AttributeWrite
  faithful : ∀ probe, (entry.router.resolve probe).attributes = applyAll (writes probe) probe.attributes

/-- Whether writes leave a lookup path, and nothing else after it under that name. -/
def StoresLookup (writes : List AttributeWrite) (path : String) : Prop :=
  lastLeft? AttributeName.lookupPath writes = some (some (.text path))

/-- The writes of routers that are asked one after another. -/
def writesThrough : List RecordedEntry → Request → List AttributeWrite
  | [], _ => []
  | recorded :: rest, probe =>
    recorded.writes probe ++ writesThrough rest (recorded.entry.leave probe)

/-- Every registry can be recorded. -/
theorem exists_recorded (entries : List RegisteredRouter) :
    ∃ recorded : List RecordedEntry, recorded.map (·.entry) = entries := by
  induction entries with
  | nil => exact ⟨[], rfl⟩
  | cons entry rest ih =>
    obtain ⟨recorded, rfl⟩ := ih
    have made := fun probe : Request =>
      exists_applyAll_eq probe.attributes (entry.router.resolve probe).attributes
    refine ⟨⟨entry, fun probe => (made probe).choose, fun probe => ?_⟩ :: recorded, rfl⟩
    exact (made probe).choose_spec.symm

theorem storesLookup_append_iff {earlier later : List AttributeWrite} {path : String} :
    StoresLookup (earlier ++ later) path ↔
      StoresLookup later path ∨
        lastLeft? AttributeName.lookupPath later = none ∧ StoresLookup earlier path := by
  unfold StoresLookup
  rw [lastLeft?_append]
  cases lastLeft? AttributeName.lookupPath later <;> simp

theorem RecordedEntry.attribute?_leave (recorded : RecordedEntry) (probe : Request)
    (name : String) :
    (recorded.entry.leave probe).attribute? name =
      (lastLeft? name (recorded.writes probe)).getD (probe.attribute? name) := by
  rw [RegisteredRouter.leave, Resolution.applyTo, Request.attribute?, recorded.faithful, get?_applyAll]
  rfl

theorem Passage.attribute?_eq {ignoring : Bool} {recorded : List RecordedEntry}
    {probe last : Request} (passage : Passage ignoring probe (recorded.map (·.entry)) last)
    (name : String) :
    last.attribute? name =
      (lastLeft? name (writesThrough recorded probe)).getD (probe.attribute? name) := by
  induction recorded generalizing probe with
  | nil =>
    cases passage
    rfl
  | cons entry rest ih =>
    cases passage with
    | cons _ later =>
      rw [ih later, entry.attribute?_leave, writesThrough, lastLeft?_append]
      cases lastLeft? name (writesThrough rest (entry.entry.leave probe)) <;> rfl

/-- The first chain of a pass over recorded entries: which entry answers with it, which were asked
before, and how the probe was when its turn came. -/
structure FirstChain (recorded : List RecordedEntry) (first : Request) where
  before : List RecordedEntry
  decisive : RecordedEntry
  after : List RecordedEntry
  probe : Request
  chain : Chain
  divided : recorded = before ++ decisive :: after
  passage : Passage false first (before.map (·.entry)) probe
  answered : decisive.entry.answer probe = .ok (some chain)

namespace FirstChain

variable {recorded : List RecordedEntry} {first : Request} (found : FirstChain recorded first)
  {path : String}

def router : Router := found.decisive.entry.router

/-- The writes of the routers asked before the one that answers. -/
def earlier : List AttributeWrite := writesThrough found.before first

/-- The writes of the router that answers. -/
def own : List AttributeWrite := found.decisive.writes found.probe

theorem mem : found.decisive ∈ recorded := by
  have member : found.decisive ∈ found.before ++ found.decisive :: found.after :=
    List.mem_append_right _ List.mem_cons_self
  rwa [← found.divided] at member

theorem lookupPath?_eq_some_iff (clean : first.attribute? AttributeName.lookupPath = none) :
    (found.decisive.entry.leave found.probe).lookupPath? = some path ↔
      StoresLookup (found.earlier ++ found.own) path := by
  rw [Request.lookupPath?, found.decisive.attribute?_leave, found.passage.attribute?_eq, clean,
    StoresLookup, lastLeft?_append, ← own, ← earlier]
  have text (value : AttributeValue) : value.text? = some path ↔ value = .text path := by
    cases value <;> simp [AttributeValue.text?]
  cases lastLeft? AttributeName.lookupPath found.own with
  | none =>
    cases lastLeft? AttributeName.lookupPath found.earlier with
    | none => simp
    | some left => cases left <;> simp [text]
  | some left => cases left <;> simp [text]

/-- What comes of a pass is what is made of its first chain. -/
theorem ask_outcome {α : Type} (extract : Pass.Extractor α) :
    (Pass.ask false extract (recorded.map (·.entry)) first).outcome =
      (extract found.decisive.entry found.chain
        (found.decisive.entry.leave found.probe)).1.map some := by
  have divided := congrArg (List.map (·.entry)) found.divided
  rw [List.map_append, List.map_cons] at divided
  rw [divided]
  exact Pass.ask_outcome_of_chain found.passage found.answered

end FirstChain

/-- A pass that finds something has a first chain. -/
theorem exists_firstChain {α : Type} {recorded : List RecordedEntry} {first : Request}
    {extract : Pass.Extractor α} {value : α}
    (asked : (Pass.ask false extract (recorded.map (·.entry)) first).outcome = .ok (some value)) :
    Nonempty (FirstChain recorded first) := by
  obtain ⟨front, entry, back, probe, chain, divided, passage, answered, _⟩ :=
    Pass.ask_eq_found asked
  obtain ⟨before, rest, rfl, rfl, tail⟩ := List.map_eq_append_iff.mp divided
  obtain ⟨decisive, after, rfl, rfl, rfl⟩ := List.map_eq_cons_iff.mp tail
  exact ⟨⟨before, decisive, after, probe, chain, rfl, passage, answered⟩⟩

end RouteProbe
