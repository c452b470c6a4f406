import TransportGen.Files.Tree
import TransportGen.LogSettings
import TransportGen.Main
import TransportGen.Output.Store
import TransportGen.Proofs.FilePath
import TransportGen.Proofs.Generation.Targets
import TransportGen.Proofs.Output.Marker
import TransportGen.Proofs.Output.Writing
import TransportGen.Proofs.Generation.Writing
import TransportGen.Proofs.Text.Utf8
import TransportGen.Proofs.Generation.Handwritten
import TransportGen.Proofs.Generation.Regeneration
import TransportGen.Proofs.Directive.Chain
import TransportGen.Proofs.Directive.Method
import TransportGen.Proofs.Service.Binding
import TransportGen.Proofs.Service.Build
import TransportGen.Proofs.Service.Parameters
import TransportGen.Proofs.Service.Routes
import TransportGen.Proofs.Document.Aggregate
import TransportGen.Proofs.Document.Operation
import TransportGen.Proofs.Artifact.Scope
import TransportGen.Proofs.Generation.Places
import TransportGen.Proofs.Directive.Order
import TransportGen.Proofs.Service.Statuses
import TransportGen.Proofs.Artifact.Errors
import TransportGen.Proofs.Document.Metadata
import TransportGen.Proofs.Directive.Document
import TransportGen.Proofs.Service.WireNames
import TransportGen.Proofs.Service.MethodOrder
import TransportGen.Proofs.Service.ErrorItems
import TransportGen.Proofs.Artifact.Answers
import TransportGen.Proofs.Document.Requests
import TransportGen.Proofs.Generation.Interruption
import TransportGen.Proofs.Artifact.Heads
import TransportGen.Proofs.Artifact.Imports
import TransportGen.Proofs.Generation.DryRun
import TransportGen.Proofs.Template.Parts
import TransportGen.Proofs.Schema.Null
import TransportGen.Proofs.Document.OperationIds
import TransportGen.Proofs.Schema.Required
import TransportGen.Proofs.Schema.Nested
import TransportGen.Proofs.Schema.Depth
import TransportGen.Proofs.Artifact.Accesses
import TransportGen.Proofs.Service.Selection
import TransportGen.Proofs.Directive.Spelling
import TransportGen.Proofs.ModulePath
import TransportGen.Proofs.ServerText
import TransportGen.Proofs.Directive.LinkOrder
import TransportGen.Proofs.Name
import TransportGen.Proofs.Directive.Marked
import TransportGen.Proofs.Artifact.Literals
