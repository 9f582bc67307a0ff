import Formwork.Codec.Instance
import Formwork.Codec.Options
import Formwork.Codec.Record
import Formwork.Codec.Rule
import Formwork.Codec.Schema
import Formwork.CommandLine.Arguments
import Formwork.CommandLine.FileTree
import Formwork.CommandLine.Run
import Formwork.CompileOptions
import Formwork.Directive
import Formwork.Entries
import Formwork.Error
import Formwork.FieldType
import Formwork.Instance.Edit
import Formwork.Instance.Node
import Formwork.Instance.Path
import Formwork.Instance.Payload
import Formwork.Instance.Reconcile
import Formwork.Json.Basic
import Formwork.Json.Document
import Formwork.Json.Literal
import Formwork.Json.Printer
import Formwork.Json.Reader
import Formwork.Main
import Formwork.Number.Basic
import Formwork.Number.Double
import Formwork.Number.Numeral
import Formwork.Number.Shortest
import Formwork.Pattern
import Formwork.Proofs.Codec.Instance
import Formwork.Proofs.Codec.Parts
import Formwork.Proofs.Codec.Schema
import Formwork.Proofs.Instance.Content
import Formwork.Proofs.Instance.Detached
import Formwork.Proofs.Instance.Levels
import Formwork.Proofs.Instance.Path
import Formwork.Proofs.Instance.Storable
import Formwork.Proofs.Instance.Stored
import Formwork.Proofs.Json.Settled
import Formwork.Proofs.Reconcile.Accepted
import Formwork.Proofs.Reconcile.Compatible
import Formwork.Proofs.Reconcile.Idempotence
import Formwork.Proofs.Reconcile.Kept
import Formwork.Proofs.Reconcile.Presence
import Formwork.Proofs.Reconcile.Throughout
import Formwork.Proofs.Reconcile.View
import Formwork.Proofs.Schema.Assembled
import Formwork.Proofs.Schema.Compiled
import Formwork.Proofs.Schema.Distinct
import Formwork.Proofs.Schema.Grown
import Formwork.Proofs.Schema.Levels
import Formwork.Proofs.Schema.Named
import Formwork.Proofs.Session.Reopen
import Formwork.Proofs.Session.Run
import Formwork.Proofs.Session.Steps
import Formwork.Proofs.Session.Storable
import Formwork.Resolve.Clause
import Formwork.Resolve.Enumeration
import Formwork.Resolve.Field
import Formwork.Resolve.TypeTier
import Formwork.Rule.Declaration
import Formwork.Rule.Scan
import Formwork.Rule.Set
import Formwork.Rule.Token
import Formwork.Schema.Compile
import Formwork.Schema.Constraints
import Formwork.Schema.Example
import Formwork.Schema.Node
import Formwork.Schema.Tree
import Formwork.Session
import Formwork.SizedEngine
import Formwork.SortedEntries
import Formwork.Store
import Formwork.Text.Character
import Formwork.Text.Glob
import Formwork.Text.Lowercase
import Formwork.Text.Pieces
import Formwork.Text.SnakeCase
import Formwork.Text.Table.Alphanumeric
import Formwork.Text.Table.Ignorable
import Formwork.Text.Table.LetterCase
import Formwork.Text.Table.Word
import Formwork.Text.Trim
import Formwork.Proofs.Instance.WellFormed
import Formwork.Proofs.Session.Durable
import Formwork.Proofs.Session.WellFormed
import Formwork.Proofs.Session.Lifetime
import Formwork.Proofs.Instance.RoundTrip
import Formwork.Proofs.Schema.Inferred
import Formwork.Proofs.Schema.Structured
import Formwork.Proofs.Schema.Branch
import Formwork.Proofs.Schema.Reached
import Formwork.Proofs.Schema.Written
import Formwork.Proofs.Resolve.Pattern
import Formwork.Proofs.Resolve.Spelling
import Formwork.Proofs.Resolve.PatternEntry
import Formwork.Proofs.Instance.Position
import Formwork.Proofs.Instance.Addressed
import Formwork.Proofs.Session.Addressed
import Formwork.Proofs.Instance.Pruned
import Formwork.Proofs.Instance.Hydrated
import Formwork.Proofs.Instance.Reapplied
import Formwork.Proofs.Reconcile.WellFormed
import Formwork.Proofs.Instance.Resent
import Formwork.Proofs.Json.WrittenText
import Formwork.Proofs.Json.WrittenNumber
import Formwork.Proofs.Json.Written
import Formwork.Proofs.Session.RawEdit
import Formwork.Proofs.Instance.Initial
import Formwork.Proofs.Schema.Siblings
import Formwork.Proofs.Schema.Independent
import Formwork.Proofs.Schema.Literal
import Formwork.Proofs.Schema.Reordered
import Formwork.Proofs.Session.Names
import Formwork.Proofs.Schema.Flattened
import Formwork.Proofs.Schema.Outline
import Formwork.Proofs.Codec.Rule
import Formwork.Proofs.Instance.Behind
import Formwork.Proofs.Instance.Joined
import Formwork.Proofs.Session.Undone
import Formwork.Proofs.Session.Attached
import Formwork.Proofs.Instance.Enabled
import Formwork.Proofs.Text.Lowercase
import Formwork.Proofs.Text.SnakeCase
import Formwork.Proofs.Resolve.Tier
import Formwork.Proofs.Resolve.Parameter
import Formwork.Proofs.Resolve.Listed
import Formwork.Proofs.Rule.Shown
import Formwork.Proofs.Session.Guarded
import Formwork.Proofs.Instance.Cast
import Formwork.Proofs.Number.Whole
import Formwork.Proofs.Resolve.Bound
import Formwork.Proofs.Number.Kept
import Formwork.Proofs.Number.Plain
import Formwork.Proofs.Instance.Chosen
import Formwork.Proofs.Text.Glob
import Formwork.Proofs.Reconcile.Counterpart
import Formwork.Proofs.Text.Lines
import Formwork.Proofs.Rule.Scanned
import Formwork.Proofs.Directive.Filed
import Formwork.Proofs.Directive.Interleaved
import Formwork.Proofs.Directive.Line
import Formwork.Proofs.Directive.Tagged
import Formwork.Proofs.Directive.Written
import Formwork.Proofs.Number.Grammar
import Formwork.Proofs.Number.Finite
import Formwork.Proofs.Text.Caseless
import Formwork.Proofs.Number.LowerCase
import Formwork.Proofs.Resolve.Range
import Formwork.Proofs.Rule.Merged
import Formwork.Proofs.Text.Cut
import Formwork.Proofs.Resolve.Checked
