import RouteDoc.Annotation.Block
import RouteDoc.Annotation.Description
import RouteDoc.Annotation.Endpoint
import RouteDoc.Annotation.Example
import RouteDoc.Annotation.Fault
import RouteDoc.Annotation.Parameter
import RouteDoc.Annotation.Resolved
import RouteDoc.Annotation.Response
import RouteDoc.Annotation.TagValue
import RouteDoc.Annotation.TypeToken
import RouteDoc.CommandLine.Arguments
import RouteDoc.CommandLine.Request
import RouteDoc.CommandLine.Run
import RouteDoc.Config
import RouteDoc.Config.Bundled
import RouteDoc.Config.File
import RouteDoc.Context
import RouteDoc.Datum
import RouteDoc.Datum.Check
import RouteDoc.Dict
import RouteDoc.Documentation
import RouteDoc.Main
import RouteDoc.Notice
import RouteDoc.Number.Binary64
import RouteDoc.Number.Numeral
import RouteDoc.Raml.Tree
import RouteDoc.Raml.Writer
import RouteDoc.Resource
import RouteDoc.Route
import RouteDoc.Route.Assembly
import RouteDoc.Route.Viability
import RouteDoc.Schema.Ancestry
import RouteDoc.Schema.Attribute
import RouteDoc.Schema.Builtin
import RouteDoc.Schema.Class
import RouteDoc.Schema.Declaration
import RouteDoc.Schema.Definition
import RouteDoc.Schema.Definition.Checked
import RouteDoc.Schema.Evaluation
import RouteDoc.Schema.Expression
import RouteDoc.Schema.Form
import RouteDoc.Schema.Hint
import RouteDoc.Schema.Instance
import RouteDoc.Schema.Layout
import RouteDoc.Schema.Model
import RouteDoc.Schema.Operation
import RouteDoc.Schema.Record
import RouteDoc.Schema.Registry
import RouteDoc.Schema.Resolve
import RouteDoc.Schema.Settling
import RouteDoc.Script.Declaration
import RouteDoc.Script.Expr
import RouteDoc.Script.Expression
import RouteDoc.Script.Literal
import RouteDoc.Script.Parse
import RouteDoc.Script.Pattern
import RouteDoc.Script.Rules
import RouteDoc.Script.Soundness
import RouteDoc.Script.Statement
import RouteDoc.Script.Token
import RouteDoc.Settings
import RouteDoc.Source.Comment
import RouteDoc.Source.Docstring
import RouteDoc.Source.File
import RouteDoc.Source.RouteDefinition
import RouteDoc.Text.Blank
import RouteDoc.Text.CharacterName
import RouteDoc.Text.Digit
import RouteDoc.Text.Identifier
import RouteDoc.Text.Name.Alphabets
import RouteDoc.Text.Name.Ancient
import RouteDoc.Text.Name.Forms
import RouteDoc.Text.Name.Others
import RouteDoc.Text.Name.Pictures
import RouteDoc.Text.Name.Signs
import RouteDoc.Text.Name.Syllabaries
import RouteDoc.Text.Normal
import RouteDoc.Text.Part
import RouteDoc.Text.Printable
import RouteDoc.Text.Ranges
import RouteDoc.Text.Split
import RouteDoc.Text.Word
import RouteDoc.Tree
import RouteDoc.Workspace.Files
import RouteDoc.Workspace.Path
import RouteDoc.Yaml.Base64
import RouteDoc.Yaml.Cursor
import RouteDoc.Yaml.Fault
import RouteDoc.Yaml.Lexeme
import RouteDoc.Yaml.Node
import RouteDoc.Yaml.ScalarType
import RouteDoc.Yaml.Style
import RouteDoc.Yaml.Text
import RouteDoc.Yaml.Timestamp
import RouteDoc.Yaml.Token
import RouteDoc.Yaml.Value
import RouteDoc.Yaml.Writer
import RouteDoc.Proofs.Dict
import RouteDoc.Proofs.Resolution.Reading
import RouteDoc.Proofs.Resolution.Registration
import RouteDoc.Proofs.Configuration.Closed
import RouteDoc.Proofs.Documentation.Closed
import RouteDoc.Proofs.Resolution.Canonical
import RouteDoc.Proofs.Resolution.Commute
import RouteDoc.Proofs.Resolution.Expansion
import RouteDoc.Proofs.Resolution.History
import RouteDoc.Proofs.Resolution.Acyclic
import RouteDoc.Proofs.Configuration.Acyclic
import RouteDoc.Proofs.Configuration.Fields
import RouteDoc.Proofs.Resource.Nesting
import RouteDoc.Proofs.Documentation.Rendering
import RouteDoc.Proofs.Documentation.Rebuild
import RouteDoc.Proofs.Documentation.Rejected
import RouteDoc.Proofs.Resolution.Grouping
import RouteDoc.Proofs.Route.Failure
import RouteDoc.Proofs.Route.Invariant
import RouteDoc.Proofs.Documentation.Sealed
import RouteDoc.Proofs.Route.Errors
import RouteDoc.Proofs.Source.TagLine
import RouteDoc.Proofs.Source.Block
import RouteDoc.Proofs.Text.Lines
import RouteDoc.Proofs.Source.Sign
import RouteDoc.Proofs.Script.Advance
import RouteDoc.Proofs.Script.Line
import RouteDoc.Proofs.Script.Declaration
import RouteDoc.Proofs.Script.Position
import RouteDoc.Proofs.Script.Token
import RouteDoc.Proofs.Source.Docstring
import RouteDoc.Proofs.Resource.Order
import RouteDoc.Proofs.Documentation.Reach
import RouteDoc.Proofs.Annotation.Section
import RouteDoc.Proofs.Configuration.Failure
import RouteDoc.Proofs.Resource.Variable
import RouteDoc.Proofs.Annotation.TypeToken
import RouteDoc.Proofs.Annotation.Spelling
import RouteDoc.Proofs.Number.Numeral
import RouteDoc.Proofs.Annotation.Example
import RouteDoc.Proofs.Route.Edit
import RouteDoc.Proofs.Route.Commute
import RouteDoc.Proofs.Route.Dependent
import RouteDoc.Proofs.Resolution.Dependent
import RouteDoc.Proofs.Resolution.ArrayMarks
import RouteDoc.Proofs.Resolution.Widening
import RouteDoc.Proofs.Resolution.AliasEntry
import RouteDoc.Proofs.Configuration.AliasTable
import RouteDoc.Proofs.Source.Comment
import RouteDoc.Proofs.Annotation.Description
import RouteDoc.Proofs.Annotation.EnumToken
import RouteDoc.Proofs.Annotation.Shorthand
import RouteDoc.Proofs.Raml.Example
import RouteDoc.Proofs.Documentation.Frame
