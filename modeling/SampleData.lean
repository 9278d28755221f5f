import SampleData.Main
import SampleData.Store.Script
import SampleData.Proofs.Order.Search
import SampleData.Proofs.Order.Acyclic
import SampleData.Proofs.Order.Least
import SampleData.Proofs.Draws
import SampleData.Proofs.Run.Journal
import SampleData.Proofs.Registry
import SampleData.Proofs.Run.Replay
import SampleData.Proofs.Run.DryRun
import SampleData.Proofs.Run.Sequence
import SampleData.Proofs.Run.RequiredLinks
import SampleData.Proofs.Store.Database
import SampleData.Proofs.Run.Persisted
import SampleData.Proofs.Fake
import SampleData.Proofs.Naming
import SampleData.Proofs.Store.Constraints
import SampleData.Proofs.Run.Course
import SampleData.Proofs.Run.Accounting
import SampleData.Proofs.Run.Wording
import SampleData.Proofs.Calendar
import SampleData.Proofs.Synthesis
import SampleData.Proofs.Run.Coupling
import SampleData.Proofs.Store.Obliging
import SampleData.Proofs.Run.Preview
import SampleData.Proofs.Calendar.Written
import SampleData.Proofs.Store.Encoding
import SampleData.Proofs.Text.Words
import SampleData.Proofs.Text.Search
import SampleData.Proofs.Schema.Spacing
import SampleData.Proofs.Schema.Comments
import SampleData.Proofs.Schema.Clauses
import SampleData.Proofs.Schema.Prose
import SampleData.Proofs.Schema.Declaration
import SampleData.Proofs.Schema.Types
import SampleData.Proofs.Schema.Reading
import SampleData.Proofs.Schema.Cutting
import SampleData.Proofs.Schema.Recovery
import SampleData.Proofs.Schema.Tables
import SampleData.Proofs.Schema.Links
import SampleData.Proofs.Synthesis.Lengths
import SampleData.Proofs.Schema.Lengths
import SampleData.Proofs.Synthesis.Names
import SampleData.Proofs.Schema.Redefinition
import SampleData.Proofs.Run.Wiring
import SampleData.Proofs.Synthesis.Fillable
import SampleData.Proofs.Run.Growth
import SampleData.Proofs.Run.Retelling
import SampleData.Proofs.Run.KeyField
import SampleData.Proofs.Schema.Validity
import SampleData.Proofs.Registry.Validation
import SampleData.Proofs.Run.Exclusion
import SampleData.Proofs.Run.Accounts
import SampleData.Proofs.Bootstrap.Repeated
import SampleData.Proofs.Bootstrap.Requests
import SampleData.Proofs.Run.Printing
import SampleData.Proofs.Listing
import SampleData.Proofs.Order.Blocked
import SampleData.Proofs.Store.Admission
import SampleData.Proofs.Store.Permanence
import SampleData.Proofs.Synthesis.Addresses
import SampleData.Proofs.Glob
import SampleData.Proofs.Text.Numerals
import SampleData.Proofs.Synthesis.Decimals
import SampleData.Proofs.Calendar.Days
import SampleData.Proofs.Synthesis.Decades
import SampleData.Proofs.Run.Instances
import SampleData.Proofs.Ledger
import SampleData.Proofs.Schema.Precedence
import SampleData.Proofs.Schema.TypeSpacing
import SampleData.Proofs.Schema.Splitting
import SampleData.Proofs.Scaffold
import SampleData.Proofs.Synthesis.Cuts
import SampleData.Proofs.Record
