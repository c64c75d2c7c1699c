import ColumnSchema.Session
import ColumnSchema.Proofs.Canonical
import ColumnSchema.Proofs.Decimal.Exactness
import ColumnSchema.Proofs.Decimal.Plain
import ColumnSchema.Proofs.Dependence
import ColumnSchema.Proofs.Precedence
import ColumnSchema.Proofs.Rendering.Column
import ColumnSchema.Proofs.RoundTrip
import ColumnSchema.Proofs.WellFormed
import ColumnSchema.Proofs.Widening
import ColumnSchema.Proofs.Binary.Exact
import ColumnSchema.Proofs.Single
import ColumnSchema.Proofs.Calendar.Canonical
import ColumnSchema.Proofs.Calendar.Agreement
import ColumnSchema.Proofs.IntegerLiteral
import ColumnSchema.Proofs.Decimal.Printed
