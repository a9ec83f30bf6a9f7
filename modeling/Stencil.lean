import Stencil.Cache
import Stencil.Cache.LinkedList
import Stencil.Catalog
import Stencil.Catalog.Embedded
import Stencil.Catalog.Http
import Stencil.Catalog.Library
import Stencil.Catalog.Listing
import Stencil.Catalog.Reference
import Stencil.Cli.Access
import Stencil.Cli.Command
import Stencil.Cli.Flag
import Stencil.Cli.Help
import Stencil.Cli.Run
import Stencil.Cli.Starter
import Stencil.Cli.World
import Stencil.Compile.Batch
import Stencil.Compile.Emit
import Stencil.Compile.Interrupt
import Stencil.Compile.Phase
import Stencil.Compile.Report
import Stencil.Compile.Tools
import Stencil.Component
import Stencil.Config
import Stencil.Config.Setting
import Stencil.Config.Show
import Stencil.Config.Sources
import Stencil.Diagnostic
import Stencil.Diagnostic.HostError
import Stencil.Diagnostic.Wire
import Stencil.Failure
import Stencil.Fault
import Stencil.Files
import Stencil.Generated.Code
import Stencil.Generated.Line
import Stencil.Generated.Naming
import Stencil.Generated.Render
import Stencil.Generated.Spans
import Stencil.Generated.Splice
import Stencil.Host.Archive
import Stencil.Host.BuildLine
import Stencil.Host.Check.Assign
import Stencil.Host.Check.Call
import Stencil.Host.Check.Convert
import Stencil.Host.Check.Cycle
import Stencil.Host.Check.Decl
import Stencil.Host.Check.Expr
import Stencil.Host.Check.Growth
import Stencil.Host.Check.Infer
import Stencil.Host.Check.State
import Stencil.Host.Check.Stmt
import Stencil.Host.Check.TypeExpr
import Stencil.Host.Checker
import Stencil.Host.Constant
import Stencil.Host.Exports
import Stencil.Host.Flow
import Stencil.Host.Grammar
import Stencil.Host.Identifier
import Stencil.Host.Jump
import Stencil.Host.LineMark
import Stencil.Host.Message
import Stencil.Host.Package
import Stencil.Host.Scanner
import Stencil.Host.Token
import Stencil.Host.Tools
import Stencil.Host.Tree
import Stencil.Host.Type
import Stencil.Host.TypeSet
import Stencil.Host.TypeTable
import Stencil.Host.Unify
import Stencil.Http.Address
import Stencil.Http.Message
import Stencil.Http.Url
import Stencil.Log
import Stencil.Main
import Stencil.Module
import Stencil.Module.Msgpack
import Stencil.Proofs.Cache.Key
import Stencil.Proofs.Compile.Gate
import Stencil.Proofs.Compile.Outcome
import Stencil.Proofs.Diagnostic.Location
import Stencil.Proofs.Diagnostic.Placement
import Stencil.Proofs.Generated.Alignment
import Stencil.Proofs.Generated.Cycles
import Stencil.Proofs.Generated.Expansion
import Stencil.Proofs.Generated.Includes
import Stencil.Proofs.Generated.Modes
import Stencil.Proofs.Generated.Origins
import Stencil.Proofs.Generated.Readback
import Stencil.Proofs.Generated.Remarks
import Stencil.Proofs.Generated.Static
import Stencil.Proofs.Generated.Writer
import Stencil.Proofs.Module.Envelope
import Stencil.Proofs.Module.Msgpack
import Stencil.Proofs.Template.Balanced
import Stencil.Proofs.Template.Findings
import Stencil.Proofs.Template.Injection
import Stencil.Proofs.Template.LineOrder
import Stencil.Proofs.Template.PlainText
import Stencil.Proofs.Template.Print
import Stencil.Proofs.Template.PrintedStep
import Stencil.Proofs.Template.PrintedTag
import Stencil.Proofs.Template.Roundtrip
import Stencil.Proofs.Template.Shift
import Stencil.Proofs.Template.WellFormed
import Stencil.Proofs.Text.OneLine
import Stencil.Proofs.Text.Quoted
import Stencil.Proofs.Text.Search
import Stencil.Proofs.Text.Utf8
import Stencil.Server
import Stencil.Server.Handshake
import Stencil.Server.Page
import Stencil.Server.Policy
import Stencil.Server.RateLimit
import Stencil.Server.Request
import Stencil.Server.Session
import Stencil.Source.Index
import Stencil.Source.Unit
import Stencil.Template.Cursor
import Stencil.Template.Directive
import Stencil.Template.ElementName
import Stencil.Template.Fragment
import Stencil.Template.Node
import Stencil.Template.Reader
import Stencil.Template.Tag
import Stencil.Text.Base64
import Stencil.Text.Binary
import Stencil.Text.Bytes
import Stencil.Text.CharClass
import Stencil.Text.CharTables
import Stencil.Text.Decimal
import Stencil.Text.Dotenv
import Stencil.Text.Duration
import Stencil.Text.Glob
import Stencil.Text.Html
import Stencil.Text.Json
import Stencil.Text.Json.Flaw
import Stencil.Text.Numeral
import Stencil.Text.Path
import Stencil.Text.Quoted
import Stencil.Text.Sha256
import Stencil.Text.Slots
import Stencil.Text.Timestamp
import Stencil.Text.Toml
import Stencil.Text.Toml.Resolve
import Stencil.Text.Utf8
import Stencil.Text.Yaml
import Stencil.Text.Yaml.Cursor
import Stencil.Text.Yaml.Node
import Stencil.Text.Yaml.Resolve
import Stencil.Text.Yaml.Scalar
import Stencil.Text.Yaml.Token
import Stencil.Text.Yaml.Writer
import Stencil.Version
import Stencil.Watch.Change
import Stencil.Watch.Debounce
import Stencil.Watch.Rebuild
import Stencil.Watch.Sources
import Stencil.Proofs.Cache.Keeps
import Stencil.Proofs.Generated.Reference
import Stencil.Proofs.Text.Path
import Stencil.Proofs.Generated.Targets
import Stencil.Proofs.Generated.Tokens
import Stencil.Proofs.Generated.Collected
import Stencil.Proofs.Generated.Inherited
import Stencil.Proofs.Generated.Unused
import Stencil.Proofs.Catalog.Closure
import Stencil.Proofs.Server.Session
import Stencil.Proofs.Text.Order
import Stencil.Proofs.Text.PathBelow
import Stencil.Proofs.Watch.Visible
import Stencil.Proofs.Watch.Wakeup
import Stencil.Watch.Vigil
import Stencil.Proofs.Server.RateLimit
import Stencil.Proofs.Template.ComponentTag
import Stencil.Proofs.Template.Position
import Stencil.Proofs.Generated.Declared
import Stencil.Proofs.Generated.Attribution
import Stencil.Proofs.Text.Blank
import Stencil.Proofs.Text.PathAbove
import Stencil.Proofs.Source.Lookup
import Stencil.Proofs.Compile.Prepared
import Stencil.Proofs.Cli.SourceName
import Stencil.Proofs.Template.Enclosed
import Stencil.Proofs.Template.Expression
import Stencil.Proofs.Diagnostic.Positions
import Stencil.Proofs.Diagnostic.Folding
import Stencil.Proofs.Cache.Recency
import Stencil.Proofs.Server.RetryAfter
import Stencil.Proofs.Source.Ancestors
import Stencil.Proofs.Watch.Batches
import Stencil.Proofs.Template.Fragments
import Stencil.Proofs.Template.DescentRun
import Stencil.Proofs.Template.Endings
