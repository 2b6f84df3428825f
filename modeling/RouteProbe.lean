import RouteProbe.Cors.Policy
import RouteProbe.Discovery.RouterContext
import RouteProbe.Discovery.RouterRegistry
import RouteProbe.Document.Json
import RouteProbe.Document.Toml
import RouteProbe.Document.Value
import RouteProbe.Http.Headers
import RouteProbe.Http.Method
import RouteProbe.Http.Response
import RouteProbe.Http.Uri
import RouteProbe.Journal
import RouteProbe.Lookup.Bound
import RouteProbe.Lookup.Introspector
import RouteProbe.Lookup.Pass
import RouteProbe.Lookup.PatternTable
import RouteProbe.Lookup.Probe
import RouteProbe.Lookup.Remembered
import RouteProbe.NameMap
import RouteProbe.Path.Lookup
import RouteProbe.Path.RequestPath
import RouteProbe.Pattern.Basic
import RouteProbe.Pattern.Bindings
import RouteProbe.Pattern.Glob
import RouteProbe.Pattern.Match
import RouteProbe.Pattern.Parse
import RouteProbe.Pipeline.AnswerStage
import RouteProbe.Pipeline.CorsStage
import RouteProbe.Pipeline.Envelope
import RouteProbe.Pipeline.Expectation
import RouteProbe.Pipeline.Stage
import RouteProbe.Proofs.Cors.PolicyBuilding
import RouteProbe.Proofs.Discovery.DiscoveryOrder
import RouteProbe.Proofs.Discovery.Factories
import RouteProbe.Proofs.Discovery.RegisteredRouters
import RouteProbe.Proofs.Discovery.Registrations
import RouteProbe.Proofs.Discovery.RegistryHistory
import RouteProbe.Proofs.Document.WrittenTexts
import RouteProbe.Proofs.Document.WrittenValues
import RouteProbe.Proofs.Http.HeaderFields
import RouteProbe.Proofs.Lookup.Binding
import RouteProbe.Proofs.Lookup.BoundVerdicts
import RouteProbe.Proofs.Lookup.DispatchAgreement
import RouteProbe.Proofs.Lookup.Evolution
import RouteProbe.Proofs.Lookup.FirstChain
import RouteProbe.Proofs.Lookup.GuardedRuns
import RouteProbe.Proofs.Lookup.HandlerNames
import RouteProbe.Proofs.Lookup.LookupPathOrigin
import RouteProbe.Proofs.Lookup.NestedScopes
import RouteProbe.Proofs.Lookup.Operations
import RouteProbe.Proofs.Lookup.PassTraces
import RouteProbe.Proofs.Lookup.Passages
import RouteProbe.Proofs.Lookup.PathErrors
import RouteProbe.Proofs.Lookup.PatternMemo
import RouteProbe.Proofs.Lookup.PolicyErrors
import RouteProbe.Proofs.Lookup.PolicyLookup
import RouteProbe.Proofs.Lookup.ScopedAnswers
import RouteProbe.Proofs.Lookup.Verdicts
import RouteProbe.Proofs.NamedLists
import RouteProbe.Proofs.Path.CanonicalForm
import RouteProbe.Proofs.Path.ContextPaths
import RouteProbe.Proofs.Path.NormalForms
import RouteProbe.Proofs.Pattern.Acceptance
import RouteProbe.Proofs.Pattern.CaseOptions
import RouteProbe.Proofs.Pattern.FailureTable
import RouteProbe.Proofs.Pattern.GlobCase
import RouteProbe.Proofs.Pattern.GlobPositions
import RouteProbe.Proofs.Pattern.GlobReadings
import RouteProbe.Proofs.Pattern.Grammar
import RouteProbe.Proofs.Pattern.MatchPositions
import RouteProbe.Proofs.Pattern.Meaning
import RouteProbe.Proofs.Pattern.Questions
import RouteProbe.Proofs.Pattern.Sharing
import RouteProbe.Proofs.Pattern.Templates
import RouteProbe.Proofs.Pattern.VisitedOnce
import RouteProbe.Proofs.Pipeline.AnswerStages
import RouteProbe.Proofs.Pipeline.Approvals
import RouteProbe.Proofs.Pipeline.ErrorEnvelopes
import RouteProbe.Proofs.Pipeline.PolicyHeaders
import RouteProbe.Proofs.Pipeline.Preflights
import RouteProbe.Proofs.Pipeline.RegularRequests
import RouteProbe.Proofs.Pipeline.SparedLookups
import RouteProbe.Proofs.Pipeline.StageOrder
import RouteProbe.Proofs.Positions
import RouteProbe.Proofs.Request.AttributeWrites
import RouteProbe.Proofs.Request.PathAttributes
import RouteProbe.Proofs.Request.Probes
import RouteProbe.Proofs.Request.RestoredAttributes
import RouteProbe.Proofs.Request.SeenRequests
import RouteProbe.Proofs.Results
import RouteProbe.Proofs.Route.ChainBuilding
import RouteProbe.Proofs.Route.Dialogues
import RouteProbe.Proofs.Route.PathModes
import RouteProbe.Proofs.Route.PathParameters
import RouteProbe.Proofs.Route.PatternRouters
import RouteProbe.Proofs.Route.Plans
import RouteProbe.Proofs.Settings.Layers
import RouteProbe.Proofs.Settings.Overrides
import RouteProbe.Proofs.Settings.Variables
import RouteProbe.Proofs.Settings.WrittenSettings
import RouteProbe.Proofs.Text.Encoding
import RouteProbe.Proofs.Text.LetterCase
import RouteProbe.Proofs.Text.Pieces
import RouteProbe.Proofs.Text.Spellings
import RouteProbe.Proofs.Text.Trimming
import RouteProbe.Request.Basic
import RouteProbe.Request.Draft
import RouteProbe.Request.Paths
import RouteProbe.Route.Chain
import RouteProbe.Route.PatternRouter
import RouteProbe.Route.Router
import RouteProbe.Route.Wrapped
import RouteProbe.RoutingError
import RouteProbe.Settings.Basic
import RouteProbe.Settings.Document
import RouteProbe.Settings.Environment
import RouteProbe.Settings.Loader
import RouteProbe.Text.Blank
import RouteProbe.Text.CaseTable
import RouteProbe.Text.Casing
import RouteProbe.Text.DisplayTable
import RouteProbe.Text.Octets
import RouteProbe.Text.Quoted
import RouteProbe.Text.Split
