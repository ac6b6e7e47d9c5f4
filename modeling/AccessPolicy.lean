import AccessPolicy.Text.RangeTable
import AccessPolicy.Text.Category
import AccessPolicy.Text.Script
import AccessPolicy.Text.CaseMap
import AccessPolicy.Text.CharClass
import AccessPolicy.Text.Utf8
import AccessPolicy.Text.Md5
import AccessPolicy.Text.Quote
import AccessPolicy.Text.Base64
import AccessPolicy.Text.Hex
import AccessPolicy.Text.Semver
import AccessPolicy.Number.Decimal
import AccessPolicy.Number.Binary
import AccessPolicy.Number.Fixed
import AccessPolicy.Number.Duration
import AccessPolicy.Json.Basic
import AccessPolicy.Json.Write
import AccessPolicy.Json.Read
import AccessPolicy.Value.Timestamp
import AccessPolicy.Value.ZoneData
import AccessPolicy.Value.Zone
import AccessPolicy.Value.Layout
import AccessPolicy.Value.LayoutRead
import AccessPolicy.Value.Basic
import AccessPolicy.Value.Text
import AccessPolicy.Json.Bind
import AccessPolicy.Xml.Decode
import AccessPolicy.Xml.Bind
import AccessPolicy.Text.Printf
import AccessPolicy.Mask.Basic
import AccessPolicy.RowFilter.Token
import AccessPolicy.RowFilter.Expr
import AccessPolicy.RowFilter.Parse
import AccessPolicy.RowFilter.Predicate
import AccessPolicy.RowFilter.Filter
import AccessPolicy.Glob.Syntax
import AccessPolicy.Glob.Matcher
import AccessPolicy.Glob.Compile
import AccessPolicy.Resource.Path
import AccessPolicy.Resource.Action
import AccessPolicy.Resource.Pattern
import AccessPolicy.Interceptor.HiveOperation
import AccessPolicy.Interceptor.Registry
import AccessPolicy.Yaml.Token
import AccessPolicy.Yaml.Scanner.State
import AccessPolicy.Yaml.Scanner.Scalar
import AccessPolicy.Yaml.Scanner.Tag
import AccessPolicy.Yaml.Scanner.Fetch
import AccessPolicy.Yaml.Resolve
import AccessPolicy.Yaml.Node
import AccessPolicy.Yaml.Parser
import AccessPolicy.Yaml.Decode
import AccessPolicy.Domain.Basic
import AccessPolicy.Domain.Document
import AccessPolicy.Domain.Validation
import AccessPolicy.Order.Stable
import AccessPolicy.Decision.Principal
import AccessPolicy.Snapshot.Rule
import AccessPolicy.Tags.SetStore
import AccessPolicy.Tags.Source
import AccessPolicy.Snapshot.TagIndex
import AccessPolicy.Snapshot.Basic
import AccessPolicy.Decision.Basic
import AccessPolicy.Decision.Evaluate
import AccessPolicy.Engine.Basic
import AccessPolicy.Interceptor.Guard
import AccessPolicy.Interceptor.HBase
import AccessPolicy.Interceptor.Hive
import AccessPolicy.Files.Path
import AccessPolicy.Files.Tree
import AccessPolicy.Logging.Level
import AccessPolicy.Logging.Entry
import AccessPolicy.Value.Cast
import AccessPolicy.Yaml.Generic
import AccessPolicy.Yaml.Tree
import AccessPolicy.Yaml.Emit
import AccessPolicy.Config.Layers
import AccessPolicy.Config.Settings
import AccessPolicy.Decision.Encode
import AccessPolicy.Engine.Journal
import AccessPolicy.Value.Json
import AccessPolicy.Engine.Metrics
import AccessPolicy.Engine.AccessLog
import AccessPolicy.Engine.Deployment
import AccessPolicy.Engine.Store
import AccessPolicy.Engine.Watch
import AccessPolicy.Rego.Token
import AccessPolicy.Rego.Term
import AccessPolicy.Rego.Parse
import AccessPolicy.Rego.Datum
import AccessPolicy.Rego.Builtin
import AccessPolicy.Rego.Program
import AccessPolicy.Rego.Index
import AccessPolicy.Regex.Classes
import AccessPolicy.Regex.Syntax
import AccessPolicy.Regex.Program
import AccessPolicy.Regex.Search
import AccessPolicy.Regex.Overlap
import AccessPolicy.Text.Sha
import AccessPolicy.Crypto.Der
import AccessPolicy.Crypto.Pem
import AccessPolicy.Crypto.Modular
import AccessPolicy.Crypto.Digest
import AccessPolicy.Crypto.Rsa
import AccessPolicy.Crypto.Edwards
import AccessPolicy.Crypto.Curves
import AccessPolicy.Crypto.Keys
import AccessPolicy.Crypto.Names
import AccessPolicy.Crypto.Certificate
import AccessPolicy.Crypto.Chain
import AccessPolicy.Rego.Patterns
import AccessPolicy.Rego.Digests
import AccessPolicy.Rego.Documents
import AccessPolicy.Rego.Networks
import AccessPolicy.Rego.Uuid
import AccessPolicy.Rego.WebKeys
import AccessPolicy.Rego.Jwt
import AccessPolicy.Rego.Certificates
import AccessPolicy.Rego.YamlText
import AccessPolicy.Net.Url
import AccessPolicy.Net.MailAddress
import AccessPolicy.JsonSchema.Compile
import AccessPolicy.JsonSchema.Format
import AccessPolicy.JsonSchema.Validate
import AccessPolicy.Rego.Schemas
import AccessPolicy.Rego.Comments
import AccessPolicy.Rego.SyntaxTree
import AccessPolicy.GraphQL.Syntax
import AccessPolicy.GraphQL.Lexer
import AccessPolicy.GraphQL.Parse
import AccessPolicy.GraphQL.Schema
import AccessPolicy.GraphQL.Validate
import AccessPolicy.Rego.GraphQL
import AccessPolicy.Text.Template
import AccessPolicy.Rego.Templates
import AccessPolicy.Rego.Units
import AccessPolicy.Rego.Library
import AccessPolicy.Rego.Eval
import AccessPolicy.Rego.Check
import AccessPolicy.Rego.Scopes
import AccessPolicy.Rego.Safety
import AccessPolicy.Rego.Types
import AccessPolicy.Rego.Typing
import AccessPolicy.Rego.Conflicts
import AccessPolicy.Rego.Metadata
import AccessPolicy.Rego.Policy
import AccessPolicy.Http.Message
import AccessPolicy.DecisionPoint.Rest
import AccessPolicy.DecisionPoint.ProxyCheck
import AccessPolicy.Cli.Spec
import AccessPolicy.Cli.Parse
import AccessPolicy.Cli.Session
import AccessPolicy.Cli.Suite
import AccessPolicy.Cli.Program
import AccessPolicy.Main
import AccessPolicy.Proofs.Order.Permutation
import AccessPolicy.Proofs.Snapshot.Build
import AccessPolicy.Proofs.Decision.Candidates
import AccessPolicy.Proofs.Decision.Outcome
import AccessPolicy.Proofs.RowFilter.Check
import AccessPolicy.Proofs.RowFilter.Conjunction
import AccessPolicy.Proofs.Store.Reload
import AccessPolicy.Proofs.Store.TagCache
import AccessPolicy.Proofs.Snapshot.Inheritance
import AccessPolicy.Proofs.RowFilter.Grammar
import AccessPolicy.Proofs.RowFilter.Printing
import AccessPolicy.Proofs.Tags.Binding
import AccessPolicy.Proofs.Snapshot.Validated
import AccessPolicy.Proofs.Interceptor.Enforcement
import AccessPolicy.Proofs.Interceptor.ScanMemo
import AccessPolicy.Proofs.RowFilter.FailClosed
import AccessPolicy.Proofs.Order.IdOrder
import AccessPolicy.Proofs.Decision.Record
import AccessPolicy.Proofs.Mask.Positions
import AccessPolicy.Proofs.RowFilter.NumericOrder
import AccessPolicy.Proofs.Resource.Specificity
import AccessPolicy.Proofs.Domain.MapOrder
import AccessPolicy.Proofs.DecisionPoint.ProxyAnswers
import AccessPolicy.Proofs.Resource.PathText
import AccessPolicy.Proofs.Logging.Levels
import AccessPolicy.Proofs.Decision.Totality
