import ComputedColumns.Calendar.Text
import ComputedColumns.CommandLine.Run
import ComputedColumns.Csv.Reader
import ComputedColumns.Csv.Writer
import ComputedColumns.Formula.Diagnostic
import ComputedColumns.Formula.Evaluation
import ComputedColumns.Formula.Storage
import ComputedColumns.Main
import ComputedColumns.Pattern.Compiled
import ComputedColumns.Table.Recompute
import ComputedColumns.Proofs.Binary64.Reader
import ComputedColumns.Proofs.Calendar.Text
import ComputedColumns.Proofs.Calendar.Reading
import ComputedColumns.Proofs.Formula.Checking
import ComputedColumns.Proofs.Formula.Comparison
import ComputedColumns.Proofs.Formula.DateTimePairing
import ComputedColumns.Proofs.Formula.Environment
import ComputedColumns.Proofs.Formula.Grammar
import ComputedColumns.Proofs.Formula.Height
import ComputedColumns.Proofs.Formula.Parsing
import ComputedColumns.Proofs.Formula.References
import ComputedColumns.Proofs.Formula.Storage
import ComputedColumns.Proofs.Formula.StoredReading
import ComputedColumns.Proofs.Formula.Template
import ComputedColumns.Proofs.Formula.TemporalCast
import ComputedColumns.Proofs.Formula.Transparency
import ComputedColumns.Proofs.Formula.TypedResults
import ComputedColumns.Proofs.Table.Batch
import ComputedColumns.Proofs.Table.DeclaredTypes
import ComputedColumns.Proofs.Table.Failure
import ComputedColumns.Proofs.Table.Idempotence
import ComputedColumns.Proofs.Table.Independence
import ComputedColumns.Proofs.Text.Blank
import ComputedColumns.Proofs.Table.UnknownColumns
import ComputedColumns.Proofs.Pattern.Reading
import ComputedColumns.Proofs.Pattern.Escape
import ComputedColumns.Proofs.Pattern.Brackets
import ComputedColumns.Proofs.Pattern.Parser
import ComputedColumns.Proofs.Pattern.Anchoring
import ComputedColumns.Proofs.CommandLine.Folder
import ComputedColumns.Proofs.Csv.RoundTrip
import ComputedColumns.Proofs.CommandLine.ResultTable
import ComputedColumns.Proofs.CommandLine.Recompute
import ComputedColumns.Proofs.CommandLine.Request
import ComputedColumns.Proofs.Formula.Separation
import ComputedColumns.Proofs.Text.Occurrence
import ComputedColumns.Proofs.Formula.DelimitedParts
import ComputedColumns.Proofs.Formula.ExactArithmetic
import ComputedColumns.Proofs.Binary64.Nearest
import ComputedColumns.Proofs.Binary64.Order
import ComputedColumns.Proofs.Binary64.Shortest
import ComputedColumns.Proofs.Binary64.Whole
import ComputedColumns.Proofs.Formula.NumberText
import ComputedColumns.Proofs.Formula.TemplateStability
import ComputedColumns.Proofs.Calendar.Order
import ComputedColumns.Proofs.Table.AddedColumn
import ComputedColumns.Proofs.Formula.Chronology
import ComputedColumns.Proofs.Decimal
import ComputedColumns.Proofs.Formula.Currency
import ComputedColumns.Proofs.Formula.IntegerLiteral
import ComputedColumns.Proofs.Formula.TokenSource
import ComputedColumns.Proofs.Formula.Variadic
import ComputedColumns.Proofs.Table.Validity
import ComputedColumns.Proofs.Table.Addresses
import ComputedColumns.Proofs.Formula.WholeRounding
