import DocQuery.Cache
import DocQuery.Calendar.Date
import DocQuery.Calendar.Timestamp
import DocQuery.Catalog.Basic
import DocQuery.Catalog.Error
import DocQuery.Catalog.Memory
import DocQuery.Catalog.Rehearsal
import DocQuery.Catalog.Scripted
import DocQuery.Container
import DocQuery.Container.Tagged
import DocQuery.Duration
import DocQuery.Entries
import DocQuery.Event
import DocQuery.Filter.Basic
import DocQuery.Filter.Document
import DocQuery.Function.Basic
import DocQuery.Function.Evaluate
import DocQuery.Function.Form
import DocQuery.Function.Requirement
import DocQuery.Function.Script
import DocQuery.Json.Basic
import DocQuery.Json.Fields
import DocQuery.Json.Parser
import DocQuery.Json.Printer
import DocQuery.Metrics
import DocQuery.Numeric.Binary64
import DocQuery.Numeric.Shortest
import DocQuery.Numeric.Style
import DocQuery.Pattern.Expr
import DocQuery.Pattern.Footprint
import DocQuery.Pattern.Look
import DocQuery.Pattern.Match
import DocQuery.Pattern.Meaning
import DocQuery.Pattern.Memo
import DocQuery.Pattern.Parser
import DocQuery.Pattern.Property
import DocQuery.Pattern.Regex
import DocQuery.Pattern.Search
import DocQuery.Pattern.Syntax
import DocQuery.Pattern.Utf8
import DocQuery.Proofs.Cache
import DocQuery.Proofs.Cache.Flat
import DocQuery.Proofs.Cache.Unique
import DocQuery.Proofs.Catalog.Calls
import DocQuery.Proofs.Catalog.Memory
import DocQuery.Proofs.Catalog.Phases
import DocQuery.Proofs.Duration
import DocQuery.Proofs.Filter.Conversion
import DocQuery.Proofs.Filter.Insertion
import DocQuery.Proofs.Function.Identity
import DocQuery.Proofs.Function.Sticky
import DocQuery.Proofs.Json.Compact
import DocQuery.Proofs.Json.Equality
import DocQuery.Proofs.Json.Reading
import DocQuery.Proofs.Json.Scanning
import DocQuery.Proofs.Lifetime
import DocQuery.Proofs.Numeric.Doubles
import DocQuery.Proofs.Numeric.Numerals
import DocQuery.Proofs.Pattern.Anchored
import DocQuery.Proofs.Pattern.Enclosed
import DocQuery.Proofs.Pattern.Matching
import DocQuery.Proofs.Provision.Accounts
import DocQuery.Proofs.Provision.Audits
import DocQuery.Proofs.Provision.Chronicles
import DocQuery.Proofs.Provision.Coherence
import DocQuery.Proofs.Provision.Commands
import DocQuery.Proofs.Provision.Contract
import DocQuery.Proofs.Provision.Creations
import DocQuery.Proofs.Provision.Deeds
import DocQuery.Proofs.Provision.Effects
import DocQuery.Proofs.Provision.Exchanges
import DocQuery.Proofs.Provision.Exclusion
import DocQuery.Proofs.Provision.Frames
import DocQuery.Proofs.Provision.Guarantees
import DocQuery.Proofs.Provision.Jobs
import DocQuery.Proofs.Provision.Locks
import DocQuery.Proofs.Provision.Losses
import DocQuery.Proofs.Provision.Once
import DocQuery.Proofs.Provision.Parts
import DocQuery.Proofs.Provision.Pools
import DocQuery.Proofs.Provision.Progress
import DocQuery.Proofs.Provision.Racing
import DocQuery.Proofs.Provision.Removal
import DocQuery.Proofs.Provision.Requests
import DocQuery.Proofs.Provision.Resolves
import DocQuery.Proofs.Provision.Rounds
import DocQuery.Proofs.Provision.Runs
import DocQuery.Proofs.Provision.Steps
import DocQuery.Proofs.Provision.Tallies
import DocQuery.Proofs.Provision.Threads
import DocQuery.Proofs.Query.Acceptance
import DocQuery.Proofs.Query.Compiling
import DocQuery.Proofs.Query.Defects
import DocQuery.Proofs.Query.Filling
import DocQuery.Proofs.Query.Leaves
import DocQuery.Proofs.Query.Meaning
import DocQuery.Proofs.Query.Operands
import DocQuery.Proofs.Query.Policies
import DocQuery.Proofs.Query.Reading
import DocQuery.Proofs.Query.Requirements
import DocQuery.Proofs.Query.Spelling
import DocQuery.Proofs.Query.Surplus
import DocQuery.Proofs.Query.Template
import DocQuery.Proofs.Retry
import DocQuery.Proofs.Retry.Backoff
import DocQuery.Proofs.Settings.Texts
import DocQuery.Proofs.Settings.Variables
import DocQuery.Proofs.Value.Equality
import DocQuery.Proofs.Value.RegexItems
import DocQuery.Proofs.Value.RegexLiteral
import DocQuery.Provision.Clock
import DocQuery.Provision.Error
import DocQuery.Provision.Flow
import DocQuery.Provision.Pool
import DocQuery.Provision.Provisioner
import DocQuery.Provision.World
import DocQuery.Query.Compiler
import DocQuery.Query.Dialect
import DocQuery.Query.Error
import DocQuery.Query.Operator
import DocQuery.Query.Options
import DocQuery.Query.Predicate
import DocQuery.Query.Template
import DocQuery.Retry
import DocQuery.Service
import DocQuery.Session
import DocQuery.Settings.Basic
import DocQuery.Settings.Variables
import DocQuery.Text.Blank
import DocQuery.Text.CaseFold
import DocQuery.Text.Category
import DocQuery.Text.CharSet
import DocQuery.Text.Debug
import DocQuery.Text.Decimal
import DocQuery.Text.Digit
import DocQuery.Text.Edition
import DocQuery.Text.Hex
import DocQuery.Text.Letter
import DocQuery.Text.Property
import DocQuery.Text.Segment
import DocQuery.Text.Table
import DocQuery.Text.Trait
import DocQuery.Text.Units
import DocQuery.Text.Unprintable
import DocQuery.Text.WordChar
import DocQuery.Text.WritingSystem
import DocQuery.Value.Basic
import DocQuery.Value.RegexSource
import DocQuery.Value.Tagged
import DocQuery.Value.Uuid
import DocQuery.Proofs.Provision.Runs
