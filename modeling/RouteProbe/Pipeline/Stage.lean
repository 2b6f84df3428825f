import RouteProbe.Http.Response
import RouteProbe.Lookup.Remembered
import RouteProbe.Text.Quoted

/-! # Pipelines

A request runs through the stages of a pipeline to a handler. Each stage may change the request,
answer at once, or let the rest run and change its answer. A run may also stay pending; if the
request is given up then, the stages it is in get to clean up, innermost first, but not to answer.
-/

namespace RouteProbe

/-- What comes of a run. -/
inductive Outcome
  | done (response : Response)
  /-- No answer was reached before the request was given up. -/
  | pending
  deriving DecidableEq, Repr

/-- Changes the response, if there is one. -/
def Outcome.map (change : Response → Response) : Outcome → Outcome
  | done response => done (change response)
  | pending => pending

/-- The rest of a run: what answers a request and what becomes of the visit. -/
abbrev Next (σ : Type) := Visit σ → Outcome × Visit σ

/-- A stage: what it makes of a request, given the rest of the run. -/
structure Stage (σ : Type) where
  name : String
  process : Next σ → Next σ

/-- The stages in the order they run. -/
abbrev Pipeline (σ : Type) := List (Stage σ)

namespace Pipeline

variable {σ : Type}

def run (pipeline : Pipeline σ) (handler : Next σ) : Next σ :=
  pipeline.foldr (fun stage next => stage.process next) handler

def names (pipeline : Pipeline σ) : List String := pipeline.map (·.name)

def describe (pipeline : Pipeline σ) : String :=
  "Pipeline \x7b stages: " ++ Text.quotedList pipeline.names ++ " \x7d"

end Pipeline

/-- What a scripted stage does with a request. -/
structure StageScript where
  name : String
  /-- The attributes it leaves on the request. -/
  sets : List (String × AttributeValue) := []
  /-- Its own outcome, if it does not let the rest run. -/
  outcome : Option Outcome := none

namespace StageScript

variable {σ : Type}

def toStage (script : StageScript) (note : String → σ → σ) : Stage σ where
  name := script.name
  process := fun next visit =>
    let mark := fun (text : String) (visit : Visit σ) => { visit with host := note text visit.host }
    let visit := (mark (script.name ++ ":in") visit).mapRequest fun request =>
      script.sets.foldl (fun request entry => request.setAttribute entry.1 entry.2) request
    match script.outcome with
    | some outcome => (outcome, visit)
    | none =>
      match next visit with
      | (.done response, visit) =>
        (.done response, mark (s!"{script.name}:out:" ++ toString response.status) visit)
      | (.pending, visit) => (.pending, visit)

end StageScript

end RouteProbe
