import RouteProbe.Discovery.RouterRegistry

/-! # Resolution passes

In a pass the routers of a registry are asked one after another about one probe, each finding it as
the one before it left it, until one answers with a chain. Errors of routers end the pass as well,
unless they are to be ignored. If some router wants it, the request path is split before the first
one is asked; what was left in its place before the pass is put back at the end.
-/

namespace RouteProbe

/-- What comes of a pass. -/
structure Pass (α : Type) where
  outcome : Except RoutingError (Option α)
  /-- The probe afterwards. -/
  probe : Request
  journal : Journal

namespace Pass

variable {α : Type}

/-- The pass with earlier entries of the journal. -/
def after (earlier : Journal) (pass : Pass α) : Pass α :=
  { pass with journal := earlier ++ pass.journal }

/-- What is made of the first chain: of the entry that answered, its chain and the probe as it left
it, which may be changed on the way. -/
abbrev Extractor (α : Type) := RegisteredRouter → Chain → Request → Except RoutingError α × Request

/-- What is made of the first chain if the probe stays as it is. -/
abbrev Look (α : Type) := RegisteredRouter → Chain → Request → Except RoutingError α

def reading (look : Look α) : Extractor α := fun entry chain probe =>
  (look entry chain probe, probe)

@[simp] theorem reading_fst (look : Look α) (entry : RegisteredRouter) (chain : Chain)
    (probe : Request) :
    (reading look entry chain probe).1 = look entry chain probe := rfl

/-- Asks routers in turn. -/
def ask (ignoring : Bool) (extract : Extractor α) : List RegisteredRouter → Request → Pass α
  | [], probe => ⟨.ok none, probe, []⟩
  | entry :: rest, probe =>
    let resolution := entry.router.resolve probe
    let probe := resolution.applyTo probe
    match resolution.outcome with
    | .ok (some chain) =>
      let (result, probe) := extract entry chain probe
      ⟨result.map some, probe, resolution.journal⟩
    | .ok none => (ask ignoring extract rest probe).after resolution.journal
    | .error error =>
      if ignoring then
        (ask ignoring extract rest probe).after
          (resolution.journal ++ [.notice (.ignoredFailure entry.router.name error.message)])
      else ⟨.error error, probe, resolution.journal⟩

/-- Splits the request path if some router wants it split. -/
def splitFor (entries : List RegisteredRouter) (probe : Request) : Except RoutingError Request :=
  if entries.any RegisteredRouter.usesParsedPath then (·.2) <$> probe.cacheParsedPath else .ok probe

/-- Puts back what was left in the place of the split path. -/
def restoreParsedPath (displaced : Option AttributeValue) (pass : Pass α) : Pass α :=
  { pass with probe := pass.probe.restoreAttribute AttributeName.parsedPath displaced }

/-- Passes a probe through a registry. -/
def run (registry : RouterRegistry) (ignoring : Bool) (extract : Extractor α) (probe : Request) :
    Pass α :=
  match registry.require with
  | .error error => ⟨.error error, probe, []⟩
  | .ok entries =>
    let displaced := probe.attribute? AttributeName.parsedPath
    let pass : Pass α := match splitFor entries probe with
      | .error error => ⟨.error error, probe, []⟩
      | .ok split => ask ignoring extract entries split
    pass.restoreParsedPath displaced

end Pass

/-- Binds the router that answered to the path by which it took the probe. -/
def RegisteredRouter.bind (entry : RegisteredRouter) (probe : Request) :
    Except RoutingError BoundRouter :=
  match entry.cache with
  | some cache => do return .parsed cache (← probe.requireParsedPath)
  | none =>
    if entry.router.matcher.isNone then .error (.notMatchable entry.router.name)
    else do BoundRouter.resolve? entry.router (← probe.requireLookupPath)

end RouteProbe
