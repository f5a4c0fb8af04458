import ChainApi.Binary64
import ChainApi.Calendar
import ChainApi.Catalogue
import ChainApi.Catalogue.Build
import ChainApi.Catalogue.Extract
import ChainApi.Catalogue.Reader
import ChainApi.Catalogue.Session
import ChainApi.Chain
import ChainApi.Check
import ChainApi.Client
import ChainApi.Client.Route
import ChainApi.CommandLine
import ChainApi.CommandLine.Arguments
import ChainApi.CommandLine.Request
import ChainApi.Decimal
import ChainApi.Declarations
import ChainApi.Document
import ChainApi.Document.Load
import ChainApi.Document.Reader
import ChainApi.Document.Writer
import ChainApi.Exchange
import ChainApi.FileSystem
import ChainApi.Format
import ChainApi.Json
import ChainApi.Lists
import ChainApi.Logged
import ChainApi.Main
import ChainApi.Notice
import ChainApi.Options
import ChainApi.Parameters
import ChainApi.Path
import ChainApi.Proofs.Build
import ChainApi.Proofs.Cycle
import ChainApi.Proofs.Extraction
import ChainApi.Proofs.Inline
import ChainApi.Proofs.Merge
import ChainApi.Proofs.SchemaMap
import ChainApi.Proofs.Shape
import ChainApi.Query
import ChainApi.Reference
import ChainApi.Table
import ChainApi.Text.Base64
import ChainApi.Text.Case
import ChainApi.Text.Encoding
import ChainApi.Text.Identifier
import ChainApi.Text.Numeral
import ChainApi.Text.Point
import ChainApi.Text.Printable
import ChainApi.Text.Ranges
import ChainApi.Text.Replace
import ChainApi.Text.Similar
import ChainApi.TypeExpr
import ChainApi.Typing
import ChainApi.Url
import ChainApi.Url.Label
import ChainApi.Url.Label.Chars
import ChainApi.Url.Label.Composition
import ChainApi.Url.Label.Context
import ChainApi.Url.Label.Direction
import ChainApi.Url.Punycode
import ChainApi.Value
import ChainApi.Value.Text
import ChainApi.Yaml
import ChainApi.Yaml.Build
import ChainApi.Yaml.Cursor
import ChainApi.Yaml.Node
import ChainApi.Yaml.Scalar
import ChainApi.Yaml.Token
import ChainApi.Yaml.Token.Lexer
import ChainApi.Proofs.Alike
import ChainApi.Proofs.Lockstep
import ChainApi.Proofs.Reorder
import ChainApi.Proofs.Contents
import ChainApi.Proofs.Nesting
import ChainApi.Proofs.Reader
import ChainApi.Proofs.Comments
import ChainApi.Proofs.Faithful
import ChainApi.Proofs.LegalKeys
import ChainApi.Proofs.Failures
import ChainApi.Proofs.Alignment
import ChainApi.Proofs.Additive
import ChainApi.Proofs.Unrolling
import ChainApi.Proofs.Erasure
import ChainApi.Proofs.Records
import ChainApi.Proofs.SameTypes
import ChainApi.Proofs.Choices
import ChainApi.Proofs.Workspace
import ChainApi.Proofs.Lasso
import ChainApi.Proofs.Locality
import ChainApi.Proofs.TypeReader
import ChainApi.Proofs.Json.Reading
import ChainApi.Proofs.Yaml.Denotation
import ChainApi.Proofs.Yaml.Building
import ChainApi.Proofs.Yaml.Weaving
import ChainApi.Proofs.Yaml.Parsing
import ChainApi.Proofs.Yaml.Scalars
import ChainApi.Proofs.Yaml.Common
import ChainApi.Proofs.Yaml.Words
import ChainApi.Proofs.Yaml.Lexing
import ChainApi.Proofs.Yaml.Tokens
import ChainApi.Proofs.Json.Loading
import ChainApi.Proofs.Accounting
import ChainApi.Proofs.Placeholders
import ChainApi.Proofs.Target
import ChainApi.Proofs.PathArguments
import ChainApi.Proofs.SharedParameters
import ChainApi.Proofs.Absorption
import ChainApi.Proofs.Utf8
import ChainApi.Proofs.FormEncoding
import ChainApi.Proofs.Appearance
import ChainApi.Proofs.Routing
import ChainApi.Proofs.FileTree
import ChainApi.Proofs.Writing
import ChainApi.Proofs.Directory
import ChainApi.Proofs.Effects
import ChainApi.Proofs.Answers
import ChainApi.Proofs.Yaml.Causes
import ChainApi.Proofs.Yaml.Merging
import ChainApi.Proofs.Yaml.Breakdowns
import ChainApi.Proofs.Loading
import ChainApi.Proofs.DistinctKeys
import ChainApi.Proofs.Envelopes
import ChainApi.Proofs.Rereading
import ChainApi.Proofs.Respelling
import ChainApi.Proofs.Stored
import ChainApi.Proofs.Sharing
