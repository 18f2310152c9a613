import GraphQuery.Authorization.Access
import GraphQuery.Authorization.Rule
import GraphQuery.Cache.Basic
import GraphQuery.Condition.Basic
import GraphQuery.Condition.Bindings
import GraphQuery.Condition.Interchange
import GraphQuery.Cursor.Basic
import GraphQuery.Cursor.Seek
import GraphQuery.Decimal.Binary64
import GraphQuery.Decimal.Layout
import GraphQuery.Decimal.Scan
import GraphQuery.Decimal.Shortest
import GraphQuery.Digest.Blake3
import GraphQuery.Engine.Basic
import GraphQuery.Engine.Session
import GraphQuery.Error
import GraphQuery.Filter.Basic
import GraphQuery.Filter.Parser
import GraphQuery.Graph.Basic
import GraphQuery.Graph.Run
import GraphQuery.Graph.Truth
import GraphQuery.Json.Basic
import GraphQuery.Json.Reader
import GraphQuery.Json.Record
import GraphQuery.Json.Writer
import GraphQuery.Options
import GraphQuery.Order.Basic
import GraphQuery.Order.Parser
import GraphQuery.Page.Assemble
import GraphQuery.Page.Basic
import GraphQuery.Pattern.Automaton
import GraphQuery.Pattern.Basic
import GraphQuery.Pattern.Bytes
import GraphQuery.Pattern.CharSet
import GraphQuery.Pattern.KnownProperty
import GraphQuery.Pattern.Match
import GraphQuery.Pattern.Property
import GraphQuery.Pattern.Reader
import GraphQuery.Pattern.Trie
import GraphQuery.Pattern.Written
import GraphQuery.Plan.Arguments
import GraphQuery.Plan.Basic
import GraphQuery.Plan.Build
import GraphQuery.Proofs.Graph.Built
import GraphQuery.Proofs.Graph.Sorting
import GraphQuery.Proofs.Plan.Branches
import GraphQuery.Proofs.Result
import GraphQuery.Proofs.Table
import GraphQuery.Proofs.Value.Order
import GraphQuery.Request.Field
import GraphQuery.Request.Permission
import GraphQuery.Schema.Authorization
import GraphQuery.Schema.Basic
import GraphQuery.Schema.Build
import GraphQuery.Schema.Entity
import GraphQuery.Schema.Property
import GraphQuery.Schema.Relationship
import GraphQuery.Statement.Answer
import GraphQuery.Statement.Basic
import GraphQuery.Statement.Compile
import GraphQuery.Statement.Render
import GraphQuery.Table
import GraphQuery.Text.Base64Url
import GraphQuery.Text.Blank
import GraphQuery.Text.CaseFolding
import GraphQuery.Text.Category
import GraphQuery.Text.DecimalDigit
import GraphQuery.Text.Letter
import GraphQuery.Text.Printable
import GraphQuery.Text.Quoted
import GraphQuery.Text.Script
import GraphQuery.Text.WordCharacter
import GraphQuery.Value
import GraphQuery.Proofs.Plan.Compile
import GraphQuery.Proofs.Graph.Selection
import GraphQuery.Proofs.Page.Slice
import GraphQuery.Proofs.Condition.Folding
import GraphQuery.Proofs.Filter.Verdict
import GraphQuery.Proofs.Cursor.Seek
import GraphQuery.Proofs.Plan.Find
import GraphQuery.Proofs.Plan.Adequacy
import GraphQuery.Proofs.Cursor.RoundTrip
import GraphQuery.Proofs.Cursor.Beyond
import GraphQuery.Proofs.Engine.Execute
import GraphQuery.Proofs.Page.Presented
import GraphQuery.Proofs.Page.Paging
import GraphQuery.Proofs.Engine.Walk
import GraphQuery.Proofs.Filter.Holds
import GraphQuery.Proofs.Filter.Meaning
import GraphQuery.Proofs.Authorization.Grants
import GraphQuery.Proofs.Cache.Kept
import GraphQuery.Proofs.Page.Positions
import GraphQuery.Proofs.Page.Admitted
import GraphQuery.Proofs.Page.Assembling
import GraphQuery.Proofs.Page.Agreement
import GraphQuery.Proofs.Engine.Calls
import GraphQuery.Proofs.Engine.Granted
import GraphQuery.Proofs.Engine.Supertypes
import GraphQuery.Proofs.Statement.Executes
import GraphQuery.Proofs.Page.Coherent
import GraphQuery.Proofs.Page.Ready
import GraphQuery.Proofs.Engine.Coherence
import GraphQuery.Proofs.Plan.Wanted
import GraphQuery.Proofs.Engine.Reloads
import GraphQuery.Proofs.Engine.Lazy
import GraphQuery.Proofs.Schema.Lineage
import GraphQuery.Proofs.Plan.Groups
import GraphQuery.Proofs.Statement.Redirects
import GraphQuery.Proofs.Plan.Arguments
import GraphQuery.Proofs.Plan.Fragments
import GraphQuery.Proofs.Plan.Fingerprint
import GraphQuery.Proofs.Cache.History
import GraphQuery.Proofs.Authorization.Completeness
import GraphQuery.Proofs.Graph.Variant
import GraphQuery.Proofs.Authorization.Denied
import GraphQuery.Proofs.Engine.Noninterference
import GraphQuery.Proofs.Page.Issued
import GraphQuery.Proofs.Engine.Issued
import GraphQuery.Proofs.Schema.Ascent
import GraphQuery.Proofs.Schema.WellFormed
import GraphQuery.Proofs.Schema.Inverse
import GraphQuery.Proofs.Schema.Precedence
import GraphQuery.Proofs.Schema.Members
import GraphQuery.Proofs.Schema.Concrete
import GraphQuery.Proofs.Page.Resolved
import GraphQuery.Proofs.Engine.Concrete
import GraphQuery.Proofs.Filter.Grammar
import GraphQuery.Proofs.Statement.Literals
import GraphQuery.Proofs.Json.Injective
import GraphQuery.Proofs.Options
import GraphQuery.Proofs.Cursor.Sought
import GraphQuery.Proofs.Plan.Merged
import GraphQuery.Proofs.Filter.Reading
import GraphQuery.Proofs.Filter.Matches
import GraphQuery.Proofs.Graph.Inserted
import GraphQuery.Proofs.Filter.Decided
import GraphQuery.Proofs.Pattern.Closing
import GraphQuery.Proofs.Pattern.Anchored
import GraphQuery.Proofs.Filter.Failing
import GraphQuery.Proofs.Decimal.Rounding
import GraphQuery.Proofs.Value.Preorder
import GraphQuery.Proofs.Graph.Ledger
import GraphQuery.Proofs.Order.Grammar
import GraphQuery.Proofs.Order.Nullable
import GraphQuery.Proofs.Schema.United
import GraphQuery.Proofs.Authorization.Hops
import GraphQuery.Proofs.Plan.Budget
import GraphQuery.Proofs.Plan.Regrouped
import GraphQuery.Proofs.Plan.Rephrased
import GraphQuery.Proofs.Schema.Reordered
import GraphQuery.Proofs.Condition.Readable
import GraphQuery.Proofs.Engine.SortKeys
