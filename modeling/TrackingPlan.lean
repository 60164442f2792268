import TrackingPlan.Main
import TrackingPlan.Proofs.Generator.Literals
import TrackingPlan.Proofs.Python.Namespaces
import TrackingPlan.Proofs.Python.Parameters
import TrackingPlan.Proofs.Schema.Decoding
import TrackingPlan.Proofs.Generator.Fresh
import TrackingPlan.Proofs.Generator.Agreement
import TrackingPlan.Proofs.Settings.Reload
import TrackingPlan.Proofs.Registry.Closed
import TrackingPlan.Proofs.Settings.Precedence
import TrackingPlan.Proofs.Kotlin.Namespaces
import TrackingPlan.Proofs.Source.Keys
import TrackingPlan.Proofs.CommandLine.Session
import TrackingPlan.Proofs.Json.Stages
import TrackingPlan.Proofs.Json.Newlines
import TrackingPlan.Proofs.Schema.Loading
import TrackingPlan.Proofs.Text.PhysicalLines
import TrackingPlan.Proofs.Python.Header
import TrackingPlan.Proofs.Python.Members
import TrackingPlan.Proofs.Generator.Documents
import TrackingPlan.Proofs.Generator.EntryPoints
import TrackingPlan.Proofs.Generator.Annotations
import TrackingPlan.Proofs.Generator.Renames
import TrackingPlan.Proofs.Source.Refusals
import TrackingPlan.Proofs.Source.Strictness
import TrackingPlan.Proofs.Source.References
import TrackingPlan.Proofs.Source.Records
import TrackingPlan.Proofs.Generator.Strings
import TrackingPlan.Proofs.Schema.Format
import TrackingPlan.Proofs.Schema.Faults
import TrackingPlan.Proofs.Schema.Edits
import TrackingPlan.Proofs.Naming.Camel
import TrackingPlan.Proofs.Layout.Tidying
import TrackingPlan.Proofs.Layout.Parts
import TrackingPlan.Proofs.Kotlin.Comments
import TrackingPlan.Proofs.Python.TripleQuoted
import TrackingPlan.Proofs.Python.Docstrings
import TrackingPlan.Proofs.Generator.Descriptions
import TrackingPlan.Proofs.Python.Answers
import TrackingPlan.Proofs.Generator.Signatures
import TrackingPlan.Proofs.Registry.Undo
import TrackingPlan.Proofs.Source.Metadata
import TrackingPlan.Proofs.Naming.Memory
import TrackingPlan.Proofs.Naming.Search
import TrackingPlan.Proofs.Naming.Segments
