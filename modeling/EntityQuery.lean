import EntityQuery.Analysis.Analyser
import EntityQuery.Analysis.QueryWord
import EntityQuery.Analysis.RootEntity
import EntityQuery.CallSite
import EntityQuery.Checker
import EntityQuery.Command.Choices
import EntityQuery.Command.Directory
import EntityQuery.Command.Invocation
import EntityQuery.Command.Occurrence
import EntityQuery.Command.Outcome
import EntityQuery.Command.Switch
import EntityQuery.Command.Usage
import EntityQuery.Diagnostic.Basic
import EntityQuery.Diagnostic.Origin
import EntityQuery.Diagnostic.Printing
import EntityQuery.Diagnostic.Snippet
import EntityQuery.Diagnostic.SourceLine
import EntityQuery.Diagnostic.Styled
import EntityQuery.Diagnostic.Window
import EntityQuery.Graph.Basic
import EntityQuery.Graph.Collection
import EntityQuery.Graph.Construction
import EntityQuery.Graph.Lookup
import EntityQuery.Graph.PathType
import EntityQuery.Graph.Summary
import EntityQuery.Json.Basic
import EntityQuery.Json.Decode
import EntityQuery.Json.Number
import EntityQuery.Json.Quoted
import EntityQuery.Json.Skip
import EntityQuery.Keyed
import EntityQuery.Main
import EntityQuery.Mapping.Access
import EntityQuery.Mapping.Property
import EntityQuery.Mapping.PropertyType
import EntityQuery.Model.Basic
import EntityQuery.Model.Declaration
import EntityQuery.Model.Declared
import EntityQuery.Model.Reading
import EntityQuery.Model.Sample
import EntityQuery.Model.Table
import EntityQuery.Name
import EntityQuery.OrderedSet
import EntityQuery.Path
import EntityQuery.Proofs.Analysis.AliasKeyword
import EntityQuery.Proofs.Analysis.PathReports
import EntityQuery.Proofs.Analysis.RootReading
import EntityQuery.Proofs.Analysis.SingleCondition
import EntityQuery.Proofs.Analysis.WordGrammar
import EntityQuery.Proofs.Analysis.WordReader
import EntityQuery.Proofs.Analysis.Words
import EntityQuery.Proofs.Checker.BindingFindings
import EntityQuery.Proofs.Checker.Context
import EntityQuery.Proofs.Checker.Fallback
import EntityQuery.Proofs.Checker.Literal
import EntityQuery.Proofs.Checker.Ranges
import EntityQuery.Proofs.Checker.Reachable
import EntityQuery.Proofs.Checker.Reports
import EntityQuery.Proofs.Checker.SideBySide
import EntityQuery.Proofs.Checker.SingleProperty
import EntityQuery.Proofs.Checker.UnknownEntities
import EntityQuery.Proofs.Diagnostic.MovedRanges
import EntityQuery.Proofs.Diagnostic.Printable
import EntityQuery.Proofs.Diagnostic.Underlining
import EntityQuery.Proofs.Graph.Accounts
import EntityQuery.Proofs.Graph.Alike
import EntityQuery.Proofs.Graph.AskedTwice
import EntityQuery.Proofs.Graph.Complete
import EntityQuery.Proofs.Graph.Consistency
import EntityQuery.Proofs.Graph.DeclaredTargets
import EntityQuery.Proofs.Graph.EntityNames
import EntityQuery.Proofs.Graph.Growth
import EntityQuery.Proofs.Graph.Handles
import EntityQuery.Proofs.Graph.History
import EntityQuery.Proofs.Graph.InheritedProperties
import EntityQuery.Proofs.Graph.Links
import EntityQuery.Proofs.Graph.Origins
import EntityQuery.Proofs.Graph.Outcome
import EntityQuery.Proofs.Graph.OwnName
import EntityQuery.Proofs.Graph.PathCache
import EntityQuery.Proofs.Graph.Resolution
import EntityQuery.Proofs.Graph.Retention
import EntityQuery.Proofs.Graph.Roles
import EntityQuery.Proofs.Graph.Routes
import EntityQuery.Proofs.Graph.Settled
import EntityQuery.Proofs.Graph.SingleProperties
import EntityQuery.Proofs.Graph.Twins
import EntityQuery.Proofs.Graph.WithoutFallback
import EntityQuery.Proofs.InsertionOrder
import EntityQuery.Proofs.Mapping.Inheritance
import EntityQuery.Proofs.Mapping.Properties
import EntityQuery.Proofs.Mapping.PropertyNames
import EntityQuery.Proofs.Mapping.PropertyOrder
import EntityQuery.Proofs.Model.Answers
import EntityQuery.Proofs.Model.Chains
import EntityQuery.Proofs.Model.Cycles
import EntityQuery.Proofs.Model.EntityTypes
import EntityQuery.Proofs.Model.Forest
import EntityQuery.Proofs.Model.Hierarchy
import EntityQuery.Proofs.Model.Interchange
import EntityQuery.Proofs.Model.QualifiedNames
import EntityQuery.Proofs.Model.Tables
import EntityQuery.Proofs.Model.Validation
import EntityQuery.Proofs.Query.BindingWarnings
import EntityQuery.Proofs.Query.Grammar
import EntityQuery.Proofs.Query.Occurrence
import EntityQuery.Proofs.Query.Placeholders
import EntityQuery.Proofs.Query.Surroundings
import EntityQuery.Proofs.Shorthand.Filters
import EntityQuery.Proofs.Shorthand.KeptPlaceholders
import EntityQuery.Proofs.Shorthand.OrderBy
import EntityQuery.Proofs.Shorthand.Refusals
import EntityQuery.Proofs.Shorthand.SingleBinding
import EntityQuery.Proofs.Shorthand.SingleName
import EntityQuery.Proofs.Shorthand.SortDirections
import EntityQuery.Proofs.Shorthand.SortSuffix
import EntityQuery.Proofs.Text.Boundaries
import EntityQuery.Proofs.Text.Bytes
import EntityQuery.Proofs.Text.Encoding
import EntityQuery.Proofs.Text.Pieces
import EntityQuery.Query.Bindings
import EntityQuery.Query.Placeholder
import EntityQuery.Shorthand.Expansion
import EntityQuery.Shorthand.Sort
import EntityQuery.Shorthand.Verb
import EntityQuery.Text.Blank
import EntityQuery.Text.Case
import EntityQuery.Text.CaseTable
import EntityQuery.Text.Offset
import EntityQuery.Text.Split
import EntityQuery.Text.Width
import EntityQuery.Text.Word
