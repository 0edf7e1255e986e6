import DocAccess.Accessors.Basic
import DocAccess.Blog.Models
import DocAccess.Code.Expr
import DocAccess.Code.Ident
import DocAccess.Code.Import
import DocAccess.Code.Item
import DocAccess.Code.Printer
import DocAccess.Code.Validity
import DocAccess.CommandLine.Arguments
import DocAccess.CommandLine.Run
import DocAccess.Container.Driver
import DocAccess.Container.Feed
import DocAccess.Container.Handle
import DocAccess.Container.Resource
import DocAccess.Decimal.Double
import DocAccess.Decimal.Shortest
import DocAccess.Document.Number
import DocAccess.Document.Reader
import DocAccess.Document.Shape
import DocAccess.Document.Value
import DocAccess.Document.Writer
import DocAccess.Emission.Method
import DocAccess.Emission.Module
import DocAccess.Emission.Names
import DocAccess.Files.Access
import DocAccess.Files.Entries
import DocAccess.Files.Path
import DocAccess.Files.Tree
import DocAccess.Generate.Assembly
import DocAccess.Generate.Config
import DocAccess.Generate.Error
import DocAccess.Generate.Fault
import DocAccess.Generate.Header
import DocAccess.Layout.Piece
import DocAccess.Main
import DocAccess.Model.Directory
import DocAccess.Model.File
import DocAccess.Model.Spec
import DocAccess.Operations.Set
import DocAccess.Partition.Key
import DocAccess.Proofs.Accessors.Calls
import DocAccess.Proofs.Accessors.Catalogue
import DocAccess.Proofs.Accessors.Mirror
import DocAccess.Proofs.Accessors.PartitionListing
import DocAccess.Proofs.Accessors.PartitionQuery
import DocAccess.Proofs.Accessors.Provisioned
import DocAccess.Proofs.Accessors.Relay
import DocAccess.Proofs.Accessors.Widening
import DocAccess.Proofs.Blog.Catalogues
import DocAccess.Proofs.Blog.Client
import DocAccess.Proofs.Checks
import DocAccess.Proofs.Container.Asking
import DocAccess.Proofs.Container.Consumers
import DocAccess.Proofs.Container.Draining
import DocAccess.Proofs.Container.Naming
import DocAccess.Proofs.Container.Recording
import DocAccess.Proofs.Container.Resource
import DocAccess.Proofs.Container.Runs
import DocAccess.Proofs.Container.Steps
import DocAccess.Proofs.Container.StreamedPages
import DocAccess.Proofs.Container.Streaming
import DocAccess.Proofs.Decimal.Rounding
import DocAccess.Proofs.Decimal.Shortest
import DocAccess.Proofs.Decimal.Whole
import DocAccess.Proofs.Document.NumberText
import DocAccess.Proofs.Document.Scaling
import DocAccess.Proofs.Emission.Bodies
import DocAccess.Proofs.Emission.Client
import DocAccess.Proofs.Emission.Declarations
import DocAccess.Proofs.Emission.Identifiers
import DocAccess.Proofs.Emission.Identity
import DocAccess.Proofs.Emission.Locals
import DocAccess.Proofs.Emission.Methods
import DocAccess.Proofs.Emission.Names
import DocAccess.Proofs.Emission.Provisioned
import DocAccess.Proofs.Emission.Relay
import DocAccess.Proofs.Emission.Replies
import DocAccess.Proofs.Emission.Running
import DocAccess.Proofs.Emission.Scope
import DocAccess.Proofs.Emission.Source
import DocAccess.Proofs.Emission.Spelling
import DocAccess.Proofs.Emission.Validity
import DocAccess.Proofs.Files.Entries
import DocAccess.Proofs.Files.Path
import DocAccess.Proofs.Files.Replacing
import DocAccess.Proofs.Generate.Acceptance
import DocAccess.Proofs.Generate.Assembly
import DocAccess.Proofs.Generate.Offender
import DocAccess.Proofs.Partition.Key
import DocAccess.Proofs.Query.Condition
import DocAccess.Proofs.Query.Evaluation
import DocAccess.Proofs.Query.Lexing
import DocAccess.Proofs.Query.Literals
import DocAccess.Proofs.Query.Parsing
import DocAccess.Proofs.Run.Agreement
import DocAccess.Proofs.Run.AllOrNothing
import DocAccess.Proofs.Run.Listing
import DocAccess.Proofs.Run.ModelFiles
import DocAccess.Proofs.Run.Readings
import DocAccess.Proofs.Source.Path
import DocAccess.Proofs.Source.Reading
import DocAccess.Proofs.Source.Word
import DocAccess.Proofs.Store.Commuting
import DocAccess.Proofs.Store.Conditions
import DocAccess.Proofs.Store.Cycle
import DocAccess.Proofs.Store.Effects
import DocAccess.Proofs.Store.History
import DocAccess.Proofs.Store.Integers
import DocAccess.Proofs.Store.Integrity
import DocAccess.Proofs.Store.Ledger
import DocAccess.Proofs.Store.Operation
import DocAccess.Proofs.Store.Literals
import DocAccess.Proofs.Store.MovingPages
import DocAccess.Proofs.Store.Origin
import DocAccess.Proofs.Store.Paging
import DocAccess.Proofs.Store.Provision
import DocAccess.Proofs.Store.Results
import DocAccess.Proofs.Store.Serial
import DocAccess.Proofs.Store.Tag
import DocAccess.Proofs.Store.Unbound
import DocAccess.Proofs.Text.Pieces
import DocAccess.Proofs.Text.Words
import DocAccess.Query.Expr
import DocAccess.Query.Filter
import DocAccess.Query.Grammar.Call
import DocAccess.Query.Grammar.Command
import DocAccess.Query.Grammar.DataType
import DocAccess.Query.Grammar.Definition
import DocAccess.Query.Grammar.Expression
import DocAccess.Query.Grammar.Mutation
import DocAccess.Query.Grammar.Projection
import DocAccess.Query.Grammar.Selection
import DocAccess.Query.Grammar.Source
import DocAccess.Query.Grammar.Statement
import DocAccess.Query.Keyword
import DocAccess.Query.Lexer
import DocAccess.Query.Prepared
import DocAccess.Query.Reading
import DocAccess.Query.Token
import DocAccess.Run.BuildScript
import DocAccess.Run.Change
import DocAccess.Run.Generate
import DocAccess.Source.Grammar.Expression
import DocAccess.Source.Grammar.Item
import DocAccess.Source.Grammar.Path
import DocAccess.Source.Grammar.Pattern
import DocAccess.Source.Grammar.Type
import DocAccess.Source.Items
import DocAccess.Source.Lexer
import DocAccess.Source.Reading
import DocAccess.Source.Token
import DocAccess.Store.Basic
import DocAccess.Store.Error
import DocAccess.Store.Paging
import DocAccess.Store.Request
import DocAccess.Store.Table
import DocAccess.Text.Blank
import DocAccess.Text.Case
import DocAccess.Text.Cluster
import DocAccess.Text.CodeSet
import DocAccess.Text.Letter
import DocAccess.Text.Name
import DocAccess.Text.Quoted
import DocAccess.Text.Words
