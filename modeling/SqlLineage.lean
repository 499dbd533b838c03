import SqlLineage.CommandLine.Arguments
import SqlLineage.CommandLine.Banner
import SqlLineage.CommandLine.Report
import SqlLineage.CommandLine.Run
import SqlLineage.CommandLine.Source
import SqlLineage.Config.Basic
import SqlLineage.Config.Document
import SqlLineage.Config.File
import SqlLineage.Config.Yaml
import SqlLineage.Decimal.Reading
import SqlLineage.Decimal.Shortest
import SqlLineage.Digest.Sha256
import SqlLineage.Files.Tree
import SqlLineage.Flow.Classifier
import SqlLineage.Flow.Digraph
import SqlLineage.Flow.Document
import SqlLineage.Flow.Draft
import SqlLineage.Flow.Graph
import SqlLineage.Flow.KeyedJoin
import SqlLineage.Flow.Layout
import SqlLineage.Flow.Profile
import SqlLineage.Flow.Relation
import SqlLineage.Flow.Render
import SqlLineage.Flow.Role
import SqlLineage.Json.Basic
import SqlLineage.Json.Parser
import SqlLineage.Json.Printer
import SqlLineage.Json.Record
import SqlLineage.Lineage.Collector
import SqlLineage.Lineage.Document
import SqlLineage.Lineage.ParsedScript
import SqlLineage.Lineage.Query
import SqlLineage.Lineage.Relation
import SqlLineage.Lineage.Script
import SqlLineage.Main
import SqlLineage.Proofs.CommandLine.Reports
import SqlLineage.Proofs.Flow.Acyclic
import SqlLineage.Proofs.Flow.BackEdges
import SqlLineage.Proofs.Flow.Blocks
import SqlLineage.Proofs.Flow.ConditionCase
import SqlLineage.Proofs.Flow.Conditions
import SqlLineage.Proofs.Flow.CteNames
import SqlLineage.Proofs.Flow.CteReferences
import SqlLineage.Proofs.Flow.Declarations
import SqlLineage.Proofs.Flow.Document
import SqlLineage.Proofs.Flow.Draft
import SqlLineage.Proofs.Flow.Drawing
import SqlLineage.Proofs.Flow.DrawingReader
import SqlLineage.Proofs.Flow.Fingerprint
import SqlLineage.Proofs.Flow.JoinChains
import SqlLineage.Proofs.Flow.JoinCounts
import SqlLineage.Proofs.Flow.JoinNodes
import SqlLineage.Proofs.Flow.JoinPaths
import SqlLineage.Proofs.Flow.JoinSides
import SqlLineage.Proofs.Flow.KeyConditions
import SqlLineage.Proofs.Flow.KeyedJoin
import SqlLineage.Proofs.Flow.KeywordCase
import SqlLineage.Proofs.Flow.Layering
import SqlLineage.Proofs.Flow.Layers
import SqlLineage.Proofs.Flow.Links
import SqlLineage.Proofs.Flow.NameCapture
import SqlLineage.Proofs.Flow.NameCase
import SqlLineage.Proofs.Flow.NameFolding
import SqlLineage.Proofs.Flow.NodeNames
import SqlLineage.Proofs.Flow.Placement
import SqlLineage.Proofs.Flow.Producers
import SqlLineage.Proofs.Flow.Profile
import SqlLineage.Proofs.Flow.Provenance
import SqlLineage.Proofs.Flow.QueryEdges
import SqlLineage.Proofs.Flow.ReadingOn
import SqlLineage.Proofs.Flow.Reordering
import SqlLineage.Proofs.Flow.Scopes
import SqlLineage.Proofs.Flow.ScriptDraft
import SqlLineage.Proofs.Flow.WellFormed
import SqlLineage.Proofs.Json.RoundTrip
import SqlLineage.Proofs.Json.Variants
import SqlLineage.Proofs.Lineage.Collection
import SqlLineage.Proofs.Lineage.Declared
import SqlLineage.Proofs.Lineage.Dependencies
import SqlLineage.Proofs.Lineage.Document
import SqlLineage.Proofs.Lineage.FlatQueries
import SqlLineage.Proofs.Lineage.LexicalWalk
import SqlLineage.Proofs.Lineage.Mentions
import SqlLineage.Proofs.Lineage.Naming
import SqlLineage.Proofs.Lineage.Nesting
import SqlLineage.Proofs.Lineage.Normalization
import SqlLineage.Proofs.Lineage.Precedence
import SqlLineage.Proofs.Lineage.QueryId
import SqlLineage.Proofs.Lineage.Reading
import SqlLineage.Proofs.Lineage.Resolution
import SqlLineage.Proofs.Lineage.Script
import SqlLineage.Proofs.Lineage.Sources
import SqlLineage.Proofs.Lineage.UnionSources
import SqlLineage.Proofs.Lineage.Walk
import SqlLineage.Proofs.Lineage.WalkSteps
import SqlLineage.Proofs.Lineage.WithLists
import SqlLineage.Proofs.Remote.AcceptedReply
import SqlLineage.Proofs.Remote.Echo
import SqlLineage.Proofs.Script.CaseBlind
import SqlLineage.Proofs.Script.CheckedRun
import SqlLineage.Proofs.Script.Coverage
import SqlLineage.Proofs.Script.Delimiters
import SqlLineage.Proofs.Script.FlatScan
import SqlLineage.Proofs.Script.Groups
import SqlLineage.Proofs.Script.IndexedKind
import SqlLineage.Proofs.Script.IndexedReaders
import SqlLineage.Proofs.Script.IndexedScan
import SqlLineage.Proofs.Script.JoinScan
import SqlLineage.Proofs.Script.KeywordCase
import SqlLineage.Proofs.Script.LetterCase
import SqlLineage.Proofs.Script.LineBreaks
import SqlLineage.Proofs.Script.Lookahead
import SqlLineage.Proofs.Script.Partition
import SqlLineage.Proofs.Script.Phrases
import SqlLineage.Proofs.Script.Placement
import SqlLineage.Proofs.Script.Positions
import SqlLineage.Proofs.Script.Quoting
import SqlLineage.Proofs.Script.Readers
import SqlLineage.Proofs.Script.Rendering
import SqlLineage.Proofs.Script.Respelling
import SqlLineage.Proofs.Script.ScanSteps
import SqlLineage.Proofs.Script.Settling
import SqlLineage.Proofs.Script.Slices
import SqlLineage.Proofs.Script.WordEnds
import SqlLineage.Proofs.Script.WriteStatements
import SqlLineage.Proofs.Session.Interleaving
import SqlLineage.Proofs.Session.LastRequest
import SqlLineage.Proofs.Session.Transparency
import SqlLineage.Proofs.Text.Blank
import SqlLineage.Proofs.Text.Cut
import SqlLineage.Proofs.Text.FinalSigma
import SqlLineage.Proofs.Text.Joined
import SqlLineage.Proofs.Text.LetterCase
import SqlLineage.Proofs.Text.Lowercase
import SqlLineage.Proofs.Text.Respelling
import SqlLineage.Remote.Reply
import SqlLineage.Remote.Resolution
import SqlLineage.Script.Lexer
import SqlLineage.Script.RelationScan
import SqlLineage.Script.Statement
import SqlLineage.Script.StatementKind
import SqlLineage.Script.Token
import SqlLineage.Session.Basic
import SqlLineage.Session.Outcome
import SqlLineage.Sql.Dialect
import SqlLineage.Sql.Grammar.Access
import SqlLineage.Sql.Grammar.Alter
import SqlLineage.Sql.Grammar.Basic
import SqlLineage.Sql.Grammar.Call
import SqlLineage.Sql.Grammar.Column
import SqlLineage.Sql.Grammar.Command
import SqlLineage.Sql.Grammar.Constraint
import SqlLineage.Sql.Grammar.Create
import SqlLineage.Sql.Grammar.DataType
import SqlLineage.Sql.Grammar.DocumentTable
import SqlLineage.Sql.Grammar.Expression
import SqlLineage.Sql.Grammar.Interval
import SqlLineage.Sql.Grammar.Join
import SqlLineage.Sql.Grammar.Operand
import SqlLineage.Sql.Grammar.Precedence
import SqlLineage.Sql.Grammar.Query
import SqlLineage.Sql.Grammar.QueryTail
import SqlLineage.Sql.Grammar.Relation
import SqlLineage.Sql.Grammar.RowPattern
import SqlLineage.Sql.Grammar.Rules
import SqlLineage.Sql.Grammar.Select
import SqlLineage.Sql.Grammar.SelectList
import SqlLineage.Sql.Grammar.Statement
import SqlLineage.Sql.Grammar.TableOption
import SqlLineage.Sql.Grammar.Window
import SqlLineage.Sql.Grammar.Write
import SqlLineage.Sql.Keyword
import SqlLineage.Sql.Lexer
import SqlLineage.Sql.Literal
import SqlLineage.Sql.Printer
import SqlLineage.Sql.Subquery
import SqlLineage.Sql.Syntax
import SqlLineage.Sql.Token
import SqlLineage.Text.Alphabetic
import SqlLineage.Text.Ascii
import SqlLineage.Text.Blank
import SqlLineage.Text.Capital
import SqlLineage.Text.Cased
import SqlLineage.Text.CodeRange
import SqlLineage.Text.Cut
import SqlLineage.Text.Digit
import SqlLineage.Text.Lowercase
import SqlLineage.Text.Numeric
import SqlLineage.Text.Paint
import SqlLineage.Text.Utf8
import SqlLineage.Text.Visible
import SqlLineage.Yaml.Basic
import SqlLineage.Yaml.Outline
import SqlLineage.Yaml.Parser
import SqlLineage.Yaml.Properties
import SqlLineage.Yaml.Reader
import SqlLineage.Yaml.Scalar
import SqlLineage.Yaml.Token
