import ResourceDispatch.Decimal.Shortest
import ResourceDispatch.Dispatch.Action
import ResourceDispatch.Dispatch.Context
import ResourceDispatch.Dispatch.Controller
import ResourceDispatch.Dispatch.Failure
import ResourceDispatch.Dispatch.Reply
import ResourceDispatch.Http.Fields
import ResourceDispatch.Http.Method
import ResourceDispatch.Http.Request
import ResourceDispatch.Http.Response
import ResourceDispatch.Http.Status
import ResourceDispatch.Http.Version
import ResourceDispatch.Json.Fault
import ResourceDispatch.Json.Lexical
import ResourceDispatch.Json.Number
import ResourceDispatch.Json.Printer
import ResourceDispatch.Json.Reader
import ResourceDispatch.Json.Shape
import ResourceDispatch.Json.Skip
import ResourceDispatch.Json.Value
import ResourceDispatch.Log
import ResourceDispatch.Media
import ResourceDispatch.Notes.Service
import ResourceDispatch.Notes.Store
import ResourceDispatch.Registry.Basic
import ResourceDispatch.Registry.Descriptor
import ResourceDispatch.Registry.Entry
import ResourceDispatch.Registry.Error
import ResourceDispatch.Registry.Resource
import ResourceDispatch.Route.Pattern
import ResourceDispatch.Route.Router
import ResourceDispatch.Route.Template
import ResourceDispatch.Server.Address
import ResourceDispatch.Server.Config
import ResourceDispatch.Server.Connection
import ResourceDispatch.Server.Error
import ResourceDispatch.Server.Mount
import ResourceDispatch.Sorted
import ResourceDispatch.Text.Blank
import ResourceDispatch.Text.Case
import ResourceDispatch.Text.CaseTable
import ResourceDispatch.Text.Numeral
import ResourceDispatch.Text.Quoted
import ResourceDispatch.Text.ShapeTable
import ResourceDispatch.Text.Split
import ResourceDispatch.Text.Utf8
import ResourceDispatch.Proofs.Route.Ranking
import ResourceDispatch.Proofs.Http.Fields
import ResourceDispatch.Proofs.Route.Segmentwise
import ResourceDispatch.Proofs.Dispatch.Action
import ResourceDispatch.Proofs.Dispatch.Lifecycle
import ResourceDispatch.Proofs.Registry.Conclusion
import ResourceDispatch.Proofs.Dispatch.Closing
import ResourceDispatch.Proofs.Text.Utf8
import ResourceDispatch.Proofs.Text.Numeral
import ResourceDispatch.Proofs.Text.Blank
import ResourceDispatch.Proofs.Http.Head
import ResourceDispatch.Proofs.Http.Encoding
import ResourceDispatch.Proofs.Http.Framing
import ResourceDispatch.Proofs.Registry.Distinct
import ResourceDispatch.Proofs.Dispatch.Rendering
import ResourceDispatch.Proofs.Json.Lexical
import ResourceDispatch.Proofs.Json.RoundTrip
import ResourceDispatch.Proofs.Notes.Store
import ResourceDispatch.Proofs.Server.Connection
import ResourceDispatch.Proofs.Http.Request
import ResourceDispatch.Proofs.Server.Mount
import ResourceDispatch.Proofs.Notes.Routing
import ResourceDispatch.Proofs.Notes.Answers
import ResourceDispatch.Proofs.Notes.Effect
import ResourceDispatch.Proofs.Notes.Authority
import ResourceDispatch.Proofs.Notes.Numbers
import ResourceDispatch.Proofs.Notes.History
import ResourceDispatch.Proofs.Notes.Refinement
import ResourceDispatch.Proofs.Http.Trailing
import ResourceDispatch.Proofs.Http.Truncation
import ResourceDispatch.Proofs.Server.Truncation
import ResourceDispatch.Proofs.Dispatch.Late
import ResourceDispatch.Proofs.Dispatch.Breaking
import ResourceDispatch.Proofs.Server.Outcome
import ResourceDispatch.Proofs.Http.Target
import ResourceDispatch.Proofs.Server.Mounting
import ResourceDispatch.Proofs.Dispatch.Competition
import ResourceDispatch.Proofs.Http.Commitment
import ResourceDispatch.Proofs.Text.Decoding
import ResourceDispatch.Proofs.Dispatch.Disable
import ResourceDispatch.Proofs.Dispatch.Readonly
import ResourceDispatch.Proofs.Http.Faults
import ResourceDispatch.Proofs.Http.Soundness
import ResourceDispatch.Proofs.Registry.Agreement
import ResourceDispatch.Proofs.Route.Building
import ResourceDispatch.Proofs.Route.Pieces
import ResourceDispatch.Proofs.Route.Filling
import ResourceDispatch.Proofs.Route.Faithful
import ResourceDispatch.Proofs.Dispatch.HandlerObject
import ResourceDispatch.Proofs.Route.Rest
import ResourceDispatch.Proofs.Http.Forging
import ResourceDispatch.Proofs.Json.Shape
import ResourceDispatch.Proofs.Registry.Description
import ResourceDispatch.Proofs.Registry.Locality
import ResourceDispatch.Proofs.Dispatch.Interchange
import ResourceDispatch.Proofs.Registry.Registration
import ResourceDispatch.Proofs.Registry.InTurn
import ResourceDispatch.Proofs.Http.BlankLine
import ResourceDispatch.Proofs.Json.Pretty
import ResourceDispatch.Proofs.Dispatch.ErrorAnswer
import ResourceDispatch.Proofs.Dispatch.Suppression
import ResourceDispatch.Proofs.Dispatch.Growth
import ResourceDispatch.Proofs.Http.Headers
import ResourceDispatch.Proofs.Http.Storage
import ResourceDispatch.Proofs.Registry.Chain
import ResourceDispatch.Proofs.Media.Widening
import ResourceDispatch.Proofs.Route.Language
import ResourceDispatch.Proofs.Dispatch.Negotiation
import ResourceDispatch.Proofs.Media.Canonical
import ResourceDispatch.Proofs.Media.Compatible
import ResourceDispatch.Proofs.Server.Nesting
