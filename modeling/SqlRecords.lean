import SqlRecords.ClassMap.Describe
import SqlRecords.Database.Fragments
import SqlRecords.Database.Multiple
import SqlRecords.Database.Records
import SqlRecords.Database.Transaction
import SqlRecords.Embedded.Store
import SqlRecords.Interchange.Forms
import SqlRecords.Record
import SqlRecords.Script
import SqlRecords.Surrogate
import SqlRecords.Proofs.Predicate.SearchCondition
import SqlRecords.Proofs.Statement.Cells
import SqlRecords.Proofs.Statement.Masking
import SqlRecords.Proofs.Placeholders
import SqlRecords.Proofs.Predicate.Reading
import SqlRecords.Proofs.Predicate.RoundTrip
import SqlRecords.Proofs.Database.ClassMaps
import SqlRecords.Proofs.Database.Questions
import SqlRecords.Proofs.Statement.Alignment
import SqlRecords.Proofs.Database.Readers
import SqlRecords.Proofs.Database.Strategies
import SqlRecords.Proofs.Calendar.RoundTrip
import SqlRecords.Proofs.Database.KeyedWrites
import SqlRecords.Proofs.Database.Transactions
import SqlRecords.Proofs.Value.Storage
import SqlRecords.Proofs.Expr.Tokens
import SqlRecords.Proofs.Expr.Grammar
import SqlRecords.Proofs.Expr.Literals
import SqlRecords.Proofs.Expr.Grouping
import SqlRecords.Proofs.Calendar.Order
import SqlRecords.Proofs.Value.Order
import SqlRecords.Proofs.Text.Lacks
import SqlRecords.Proofs.Database.Batches
import SqlRecords.Proofs.Database.Inserts
import SqlRecords.Proofs.Real.RoundTrip
import SqlRecords.Proofs.Value.Constants
import SqlRecords.Proofs.Predicate.Truth
import SqlRecords.Proofs.Database.FieldUpdates
import SqlRecords.Proofs.Database.InvalidRequests
import SqlRecords.Proofs.Database.Readings
import SqlRecords.Proofs.ClassMap.Properties
import SqlRecords.Proofs.ClassMap.Materialize
import SqlRecords.Proofs.Database.InsertOutcome
import SqlRecords.Proofs.Text.Outside
import SqlRecords.Proofs.Expr.Trees
import SqlRecords.Proofs.Expr.Acceptable
import SqlRecords.Proofs.Expr.Outlines
import SqlRecords.Proofs.Expr.Comments
import SqlRecords.Proofs.Expr.RightOperands
import SqlRecords.Proofs.Database.SingleCommands
import SqlRecords.Proofs.Parameters
import SqlRecords.Proofs.Database.AssignedColumns
import SqlRecords.Proofs.Real.WholeDigits
import SqlRecords.Proofs.Value.Interpolated
import SqlRecords.Proofs.Predicate.Leaves
import SqlRecords.Proofs.Database.InsertedKeys
import SqlRecords.Proofs.Paging
import SqlRecords.Proofs.Statement.QuotedNames
import SqlRecords.Proofs.Statement.Requests
import SqlRecords.Proofs.Statement.NamedColumns
import SqlRecords.Proofs.ClassMap.ByName
import SqlRecords.Proofs.ClassMap.Declared
import SqlRecords.Proofs.Database.ClassMapCache
import SqlRecords.Proofs.Expr.Contexts
import SqlRecords.Proofs.Expr.NullTests
