import FactoryOverloads.Artifact.Build
import FactoryOverloads.CommandLine.Parse
import FactoryOverloads.Console
import FactoryOverloads.FileTree.Edit
import FactoryOverloads.Generation
import FactoryOverloads.Log
import FactoryOverloads.Log.Filter
import FactoryOverloads.Main
import FactoryOverloads.Partition.Enumeration
import FactoryOverloads.Path
import FactoryOverloads.Program
import FactoryOverloads.Settings.File
import FactoryOverloads.Settings.Text
import FactoryOverloads.Signature.Json
import FactoryOverloads.Signature.Listing
import FactoryOverloads.Target.Bindings
import FactoryOverloads.Template.Engine
import FactoryOverloads.Proofs.Partition.Counting
import FactoryOverloads.Proofs.Signature.Planning
import FactoryOverloads.Proofs.Signature.Registry
import FactoryOverloads.Proofs.Template.Filling
import FactoryOverloads.Proofs.Template.Occurrence
import FactoryOverloads.Proofs.Template.Substitution
import FactoryOverloads.Proofs.Template.Placeholders
import FactoryOverloads.Proofs.Emission.Pairing
import FactoryOverloads.Proofs.Emission.Block
import FactoryOverloads.Proofs.Text.Number
import FactoryOverloads.Proofs.Text.Search
import FactoryOverloads.Proofs.Text.Splitting
import FactoryOverloads.Proofs.Emission.Words
import FactoryOverloads.Proofs.Emission.Signature
import FactoryOverloads.Proofs.Emission.Frame
import FactoryOverloads.Proofs.Artifact.Building
import FactoryOverloads.Proofs.Artifact.Pairing
import FactoryOverloads.Proofs.Artifact.Layout
import FactoryOverloads.Proofs.Artifact.Signatures
import FactoryOverloads.Proofs.Emission.Reading
import FactoryOverloads.Proofs.Emission.Call
import FactoryOverloads.Proofs.Emission.Overload
import FactoryOverloads.Proofs.Emission.Scope
import FactoryOverloads.Proofs.FileTree.Entries
import FactoryOverloads.Proofs.FileTree.Walking
import FactoryOverloads.Proofs.FileTree.Replacing
import FactoryOverloads.Proofs.Artifact.Writing
import FactoryOverloads.Proofs.Path.Directory
import FactoryOverloads.Proofs.Settings.Destination
import FactoryOverloads.Proofs.Generation.AllOrNothing
import FactoryOverloads.Proofs.Settings.Keys
import FactoryOverloads.Proofs.Yaml.Reading
import FactoryOverloads.Proofs.Settings.Acceptance
import FactoryOverloads.Proofs.CommandLine.Scanning
import FactoryOverloads.Proofs.CommandLine.Requesting
import FactoryOverloads.Proofs.CommandLine.Precedence
import FactoryOverloads.Proofs.CommandLine.Inserting
import FactoryOverloads.Proofs.Log.Levels
import FactoryOverloads.Proofs.CommandLine.Resolving
import FactoryOverloads.Proofs.CommandLine.Checking
import FactoryOverloads.Proofs.CommandLine.Quieting
import FactoryOverloads.Proofs.Emission.Heading
import FactoryOverloads.Proofs.CommandLine.Staleness
import FactoryOverloads.Proofs.Artifact.Totality
import FactoryOverloads.Proofs.Partition.Word
import FactoryOverloads.Proofs.Partition.Reader
import FactoryOverloads.Proofs.Signature.History
import FactoryOverloads.Proofs.Signature.Inversion
import FactoryOverloads.Proofs.Partition.Order
import FactoryOverloads.Proofs.Emission.References
import FactoryOverloads.Proofs.Artifact.Streaming
import FactoryOverloads.Proofs.Template.Budget
import FactoryOverloads.Proofs.Artifact.Calls
import FactoryOverloads.Proofs.Artifact.Scheduling
import FactoryOverloads.Proofs.Signature.Reporting
import FactoryOverloads.Proofs.Json.Compact
import FactoryOverloads.Proofs.Signature.Document
import FactoryOverloads.Proofs.Path.Components
import FactoryOverloads.Proofs.FileTree.Directory
import FactoryOverloads.Proofs.Signature.Listing
import FactoryOverloads.Proofs.CommandLine.Listing
