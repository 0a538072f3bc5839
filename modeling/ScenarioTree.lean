import ScenarioTree.Cascade
import ScenarioTree.Disk
import ScenarioTree.EntryName
import ScenarioTree.FileError
import ScenarioTree.FileTree
import ScenarioTree.Format
import ScenarioTree.Format.Basic
import ScenarioTree.Format.DotEnv
import ScenarioTree.Format.Json
import ScenarioTree.Format.Toml
import ScenarioTree.Format.Toml.Scalar
import ScenarioTree.Format.Toml.Table
import ScenarioTree.Format.Yaml
import ScenarioTree.Format.Yaml.Cursor
import ScenarioTree.Format.Yaml.Node
import ScenarioTree.Format.Yaml.Scalar
import ScenarioTree.Format.Yaml.ScalarText
import ScenarioTree.Format.Yaml.Token
import ScenarioTree.Format.Yaml.TokenStream
import ScenarioTree.Host.Direction
import ScenarioTree.Host.Joining
import ScenarioTree.Host.Mapping
import ScenarioTree.Host.Name
import ScenarioTree.Host.Punycode
import ScenarioTree.LoadError
import ScenarioTree.Logging
import ScenarioTree.Number.Binary64
import ScenarioTree.Number.Order
import ScenarioTree.Number.Shortest
import ScenarioTree.Path
import ScenarioTree.Pattern.Basic
import ScenarioTree.Pattern.Escape
import ScenarioTree.Pattern.Grammar
import ScenarioTree.Pattern.Matching
import ScenarioTree.Pattern.Members
import ScenarioTree.Pattern.Reading
import ScenarioTree.Pattern.Room
import ScenarioTree.Project.Discovery
import ScenarioTree.Project.Environment
import ScenarioTree.Project.Fixture
import ScenarioTree.Project.Layout
import ScenarioTree.Project.Loader
import ScenarioTree.Project.Node
import ScenarioTree.Project.Options
import ScenarioTree.Project.Summary
import ScenarioTree.Proofs.Basic
import ScenarioTree.Proofs.Cascade.Laws
import ScenarioTree.Proofs.Cascade.Level
import ScenarioTree.Proofs.Cascade.Metadata
import ScenarioTree.Proofs.Cascade.Restored
import ScenarioTree.Proofs.Cascade.Tags
import ScenarioTree.Proofs.Cascade.Unseen
import ScenarioTree.Proofs.Format.Ascending
import ScenarioTree.Proofs.Format.Toml
import ScenarioTree.Proofs.Format.Yaml
import ScenarioTree.Proofs.Path.Entries
import ScenarioTree.Proofs.Path.Located
import ScenarioTree.Proofs.Path.Normal
import ScenarioTree.Proofs.Path.Parts
import ScenarioTree.Proofs.Path.Steps
import ScenarioTree.Proofs.Project.Discovery
import ScenarioTree.Proofs.Project.Environment
import ScenarioTree.Proofs.Project.Load
import ScenarioTree.Proofs.Project.Loading
import ScenarioTree.Proofs.Project.Reuse
import ScenarioTree.Proofs.Project.Tags
import ScenarioTree.Proofs.Record.Cell
import ScenarioTree.Proofs.Record.Coding
import ScenarioTree.Proofs.Record.Declared
import ScenarioTree.Proofs.Record.Documents
import ScenarioTree.Proofs.Record.Field
import ScenarioTree.Proofs.Record.Lawful
import ScenarioTree.Proofs.Record.Metadata
import ScenarioTree.Proofs.Record.Sections
import ScenarioTree.Proofs.Record.Storing
import ScenarioTree.Proofs.Reference.Ascending
import ScenarioTree.Proofs.Reference.Bound
import ScenarioTree.Proofs.Reference.Expansion
import ScenarioTree.Proofs.Reference.Failure
import ScenarioTree.Proofs.Reference.Machine
import ScenarioTree.Proofs.Reference.Marker
import ScenarioTree.Proofs.Reference.Resolved
import ScenarioTree.Proofs.Reference.Starts
import ScenarioTree.Proofs.Schema.Agreement
import ScenarioTree.Proofs.Schema.Documents
import ScenarioTree.Proofs.Schema.Forms
import ScenarioTree.Proofs.Schema.Registry
import ScenarioTree.Proofs.Schema.Requests
import ScenarioTree.Proofs.Schema.Satisfaction
import ScenarioTree.Proofs.Schema.Store
import ScenarioTree.Proofs.Tag.Calls
import ScenarioTree.Proofs.Tag.Composition
import ScenarioTree.Proofs.Tag.Cutting
import ScenarioTree.Proofs.Tag.Enclosures
import ScenarioTree.Proofs.Tag.Failure
import ScenarioTree.Proofs.Tag.Grammar
import ScenarioTree.Proofs.Tag.Machine
import ScenarioTree.Proofs.Tag.Nesting
import ScenarioTree.Proofs.Tag.Operators
import ScenarioTree.Proofs.Tag.Parsing
import ScenarioTree.Proofs.Tag.Positions
import ScenarioTree.Proofs.Tag.Printing
import ScenarioTree.Proofs.Tag.Reading
import ScenarioTree.Proofs.Tag.Spelling
import ScenarioTree.Proofs.Tag.Words
import ScenarioTree.Record.Basic
import ScenarioTree.Record.Coding
import ScenarioTree.Record.Kinds
import ScenarioTree.Record.Parameter
import ScenarioTree.Record.Response
import ScenarioTree.Reference
import ScenarioTree.Schema.Basic
import ScenarioTree.Schema.Bundled
import ScenarioTree.Schema.Check
import ScenarioTree.Schema.Draft
import ScenarioTree.Schema.Fault
import ScenarioTree.Schema.Kind
import ScenarioTree.Schema.Link
import ScenarioTree.Schema.Linked
import ScenarioTree.Schema.Reading
import ScenarioTree.Schema.Registry
import ScenarioTree.Schema.Resource
import ScenarioTree.Schema.Standard
import ScenarioTree.Schema.Standard.Draft4
import ScenarioTree.Schema.Standard.Draft7
import ScenarioTree.Schema.Standard.Vocabularies
import ScenarioTree.Schema.Standard.Words
import ScenarioTree.Schema.Store
import ScenarioTree.Schema.Violation
import ScenarioTree.Shape.Address
import ScenarioTree.Shape.Base64
import ScenarioTree.Shape.Basic
import ScenarioTree.Shape.Calendar
import ScenarioTree.Shape.Mail
import ScenarioTree.Shape.Pointer
import ScenarioTree.Shape.Template
import ScenarioTree.Source
import ScenarioTree.Tag.Expr
import ScenarioTree.Tag.Filter
import ScenarioTree.Tag.Query
import ScenarioTree.Tag.TagSet
import ScenarioTree.Tag.Token
import ScenarioTree.Text.Age
import ScenarioTree.Text.Alphanumeric
import ScenarioTree.Text.Blank
import ScenarioTree.Text.Category
import ScenarioTree.Text.CharacterSet
import ScenarioTree.Text.Folding
import ScenarioTree.Text.Normal
import ScenarioTree.Text.Parts
import ScenarioTree.Text.Property
import ScenarioTree.Text.Quoted
import ScenarioTree.Text.Ranges
import ScenarioTree.Text.Script
import ScenarioTree.Text.Visible
import ScenarioTree.Uri.Basic
import ScenarioTree.Uri.Reading
import ScenarioTree.Uri.Resolution
import ScenarioTree.Value
import ScenarioTree.Value.Text
