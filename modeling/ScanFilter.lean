import ScanFilter.Main
import ScanFilter.Plan.Decoding
import ScanFilter.Plan.Encoding
import ScanFilter.Session
import ScanFilter.Storage.Directory
import ScanFilter.Proofs.Decimal.Text
import ScanFilter.Proofs.Text.Utf8
import ScanFilter.Proofs.Decimal.Number
import ScanFilter.Proofs.Expr.Nodes
import ScanFilter.Proofs.Value.Agreement
import ScanFilter.Proofs.Expr.Canonical
import ScanFilter.Proofs.Plan.Reads
import ScanFilter.Proofs.Plan.RoundTrip
import ScanFilter.Proofs.Comparison.Agreement
import ScanFilter.Proofs.Expr.Shipping
import ScanFilter.Proofs.Comparison.Readable
import ScanFilter.Proofs.Comparison.Laws
import ScanFilter.Proofs.Expr.Failure
import ScanFilter.Proofs.Expr.Schema
import ScanFilter.Proofs.Storage.Steps
import ScanFilter.Proofs.Storage.Openings
import ScanFilter.Proofs.Storage.View
import ScanFilter.Proofs.Storage.History
import ScanFilter.Proofs.Comparison.Numbers
import ScanFilter.Proofs.Expr.Nulled
import ScanFilter.Proofs.Plan.Written
import ScanFilter.Proofs.Plan.Accepted
import ScanFilter.Proofs.Plan.Truncation
import ScanFilter.Proofs.Plan.Lengths
import ScanFilter.Proofs.Storage.Agreement
import ScanFilter.Proofs.Storage.Observation
import ScanFilter.Proofs.Storage.Omission
import ScanFilter.Proofs.Field.Filtering
import ScanFilter.Proofs.Text.Integer
import ScanFilter.Proofs.Text.Hex
import ScanFilter.Proofs.Storage.Disk
import ScanFilter.Proofs.Storage.PlainNames
import ScanFilter.Proofs.CommandLine.Showing
import ScanFilter.Proofs.CommandLine.Comparing
import ScanFilter.Proofs.Storage.Interchange
import ScanFilter.Proofs.Expr.Conditional
import ScanFilter.Proofs.Expr.Algebra
import ScanFilter.Proofs.Expr.Members
import ScanFilter.Proofs.Expr.Expansion
import ScanFilter.Proofs.Storage.Cursor
import ScanFilter.Proofs.Field.Record
import ScanFilter.Proofs.Value.Integral
import ScanFilter.Proofs.Comparison.Quantities
import ScanFilter.Proofs.Value.RoundTrip
import ScanFilter.Proofs.CommandLine.Recognising
import ScanFilter.Proofs.Expr.Reuse
import ScanFilter.Proofs.Expr.Substitution
import ScanFilter.Proofs.Expr.Shape
import ScanFilter.Proofs.Storage.Positions
import ScanFilter.Proofs.Value.Decimals
