import RouteMap.Annotation.Basic
import RouteMap.Annotation.Properties
import RouteMap.Annotation.Registry
import RouteMap.CommandLine
import RouteMap.Config.Basic
import RouteMap.Config.Error
import RouteMap.Config.Json
import RouteMap.Config.Loader
import RouteMap.Config.Outputs
import RouteMap.Config.Steps
import RouteMap.Config.Variables
import RouteMap.Decimal.Shortest
import RouteMap.Decimal.Style
import RouteMap.Document.Documentation
import RouteMap.Document.Error
import RouteMap.Document.Mapping
import RouteMap.Endpoint.Assembly
import RouteMap.Endpoint.Basic
import RouteMap.Endpoint.Parameters
import RouteMap.Endpoint.PathTemplate
import RouteMap.Endpoint.Verb
import RouteMap.EnvFile
import RouteMap.FileSystem.Basic
import RouteMap.FileSystem.Path
import RouteMap.Generator
import RouteMap.Input
import RouteMap.Json.Basic
import RouteMap.Json.Document
import RouteMap.Json.Field
import RouteMap.Json.Number
import RouteMap.Json.Printer
import RouteMap.Json.Shape
import RouteMap.Json.Token
import RouteMap.Log.Event
import RouteMap.Log.Settings
import RouteMap.Main
import RouteMap.Method
import RouteMap.Session
import RouteMap.Table
import RouteMap.Tag.Basic
import RouteMap.Tag.Comment
import RouteMap.Tag.Index
import RouteMap.Text.Alphabetic
import RouteMap.Text.Blank
import RouteMap.Text.Numeral
import RouteMap.Text.Raw
import RouteMap.Text.Split
import RouteMap.Text.UpperCase
import RouteMap.Text.Word
import RouteMap.Toml.Document
import RouteMap.Toml.Moment
import RouteMap.Toml.Number
import RouteMap.Toml.Text
import RouteMap.Toml.Tree
import RouteMap.Proofs.Annotation.Entries
import RouteMap.Proofs.Annotation.Flattening
import RouteMap.Proofs.Annotation.Merging
import RouteMap.Proofs.Annotation.Properties
import RouteMap.Proofs.Annotation.Registry
import RouteMap.Proofs.Annotation.RoundTrip
import RouteMap.Proofs.CommandLine.Endings
import RouteMap.Proofs.CommandLine.Loading
import RouteMap.Proofs.CommandLine.Outputs
import RouteMap.Proofs.Config.Layers
import RouteMap.Proofs.Config.Loading
import RouteMap.Proofs.Config.Outputs
import RouteMap.Proofs.Config.Process
import RouteMap.Proofs.Config.RoundTrip
import RouteMap.Proofs.Config.Validation
import RouteMap.Proofs.Config.Variables
import RouteMap.Proofs.Document.RoundTrip
import RouteMap.Proofs.Document.UnknownMembers
import RouteMap.Proofs.Endpoint.Batch
import RouteMap.Proofs.Endpoint.Discovery
import RouteMap.Proofs.Endpoint.Groups
import RouteMap.Proofs.Endpoint.Interference
import RouteMap.Proofs.Endpoint.Numbers
import RouteMap.Proofs.Endpoint.Order
import RouteMap.Proofs.Endpoint.Parameters
import RouteMap.Proofs.Endpoint.PathTemplate
import RouteMap.Proofs.Endpoint.PathVariables
import RouteMap.Proofs.Endpoint.Ranking
import RouteMap.Proofs.Endpoint.Recovery
import RouteMap.Proofs.Endpoint.Views
import RouteMap.Proofs.FileSystem.Writing
import RouteMap.Proofs.Generator.Coverage
import RouteMap.Proofs.Generator.Documents
import RouteMap.Proofs.Generator.Files
import RouteMap.Proofs.Generator.Sufficiency
import RouteMap.Proofs.Json.Canonical
import RouteMap.Proofs.Json.Compact
import RouteMap.Proofs.Json.Fields
import RouteMap.Proofs.Json.Gains
import RouteMap.Proofs.Json.Insertion
import RouteMap.Proofs.Json.Joining
import RouteMap.Proofs.Json.Refusal
import RouteMap.Proofs.Json.Runs
import RouteMap.Proofs.Json.Scalars
import RouteMap.Proofs.Json.Tree
import RouteMap.Proofs.Method.RoundTrip
import RouteMap.Proofs.Session.Attempts
import RouteMap.Proofs.Session.Runs
import RouteMap.Proofs.Table
import RouteMap.Proofs.Table.Update
import RouteMap.Proofs.Tag.Decoration
import RouteMap.Proofs.Tag.Index
import RouteMap.Proofs.Tag.Listing
import RouteMap.Proofs.Tag.Lookup
import RouteMap.Proofs.Tag.Rendering
import RouteMap.Proofs.Tag.Scanning
import RouteMap.Proofs.Text.Join
import RouteMap.Proofs.Text.Lines
import RouteMap.Proofs.Text.Numeral
import RouteMap.Proofs.Text.Pattern
import RouteMap.Proofs.Text.Trim
