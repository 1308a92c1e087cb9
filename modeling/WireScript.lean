import WireScript.Generator.Description
import WireScript.Kind.Reader
import WireScript.Main
import WireScript.Storage.FileTree
import WireScript.Proofs.Outcome
import WireScript.Proofs.Kind.Division
import WireScript.Proofs.Kind.Grammar
import WireScript.Proofs.Kind.Walk
import WireScript.Proofs.Kind.Mention
import WireScript.Proofs.Kind.RoundTrip
import WireScript.Proofs.Schema.Validity
import WireScript.Proofs.Schema.WellFormed
import WireScript.Proofs.Schema.FirstFault
import WireScript.Proofs.Schema.Rules
import WireScript.Proofs.Fragment
import WireScript.Proofs.Emission.WireOrder
import WireScript.Proofs.Emission.Words
import WireScript.Proofs.Emission.Names
import WireScript.Proofs.Emission.Scope
import WireScript.Proofs.Emission.Consumption
import WireScript.Proofs.Emission.Numbering
import WireScript.Proofs.Emission.Hygiene
import WireScript.Proofs.Emission.FieldOrder
import WireScript.Proofs.Emission.References
import WireScript.Proofs.Emission.Fresh
import WireScript.Proofs.Emission.Splicing
import WireScript.Proofs.Emission.Coverage
import WireScript.Proofs.Emission.Nesting
import WireScript.Proofs.Emission.Indentation
import WireScript.Proofs.SchemaFile.Documentation
import WireScript.Proofs.SchemaFile.Resolution
import WireScript.Proofs.SchemaFile.Ambiguity
import WireScript.Proofs.SchemaFile.Description
import WireScript.Proofs.Generator.Execution
import WireScript.Proofs.Grouping
import WireScript.Proofs.Layout
import WireScript.Proofs.Layout.Refusal
import WireScript.Proofs.Template
import WireScript.Proofs.Generator.Stages
import WireScript.Proofs.Generator.Faults
import WireScript.Proofs.Generator.Invariants
import WireScript.Proofs.Generator.Idleness
import WireScript.Proofs.Storage.Ways
import WireScript.Proofs.Storage.Changes
import WireScript.Proofs.Storage.Below
import WireScript.Proofs.Storage.Confinement
import WireScript.Proofs.Generator.Filling
import WireScript.Proofs.Generator.Placement
import WireScript.Proofs.Storage.Joining
import WireScript.Proofs.Generator.Frame
import WireScript.Proofs.Regrouping
import WireScript.Proofs.Blame
import WireScript.Proofs.CommandLine.Agreement
import WireScript.Proofs.Generator.Exactness
import WireScript.Proofs.Generator.Output
import WireScript.Proofs.Generator.Recording
import WireScript.Proofs.Generator.Accounting
import WireScript.Proofs.Artifact.Module
import WireScript.Proofs.Artifact.Uncommented
import WireScript.Proofs.Artifact.Documentation
import WireScript.Proofs.Artifact.Verbatim
import WireScript.Proofs.Artifact.Lines
import WireScript.Proofs.Artifact.Registry
import WireScript.Proofs.Text.Adjacent
import WireScript.Proofs.Artifact.Seams
import WireScript.Proofs.Generator.References
import WireScript.Proofs.Artifact.Markers
import WireScript.Proofs.Generator.Markers
import WireScript.Proofs.Artifact.Import
import WireScript.Proofs.Artifact.Records
import WireScript.Proofs.Artifact.Sealed
import WireScript.Proofs.Layout.Descent
import WireScript.Proofs.Layout.Coexistence
import WireScript.Proofs.Generator.Carrying
import WireScript.Proofs.Generator.Isolation
import WireScript.Proofs.Layout.Depth
import WireScript.Proofs.Generator.Completion
import WireScript.Proofs.Generator.Digest
