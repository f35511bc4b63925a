import TapeMeasure.Program
import TapeMeasure.Trace
import TapeMeasure.Proofs.Expr.DigitLimit
import TapeMeasure.Proofs.Expr.Separator
import TapeMeasure.Proofs.Token.Item
import TapeMeasure.Proofs.Token.Language
import TapeMeasure.Proofs.Expr.Context
import TapeMeasure.Proofs.Expr.Blanks
import TapeMeasure.Proofs.Expr.Difference
import TapeMeasure.Proofs.Expr.GoodLevel
import TapeMeasure.Proofs.Expr.Depth
import TapeMeasure.Proofs.Length.Canonical
import TapeMeasure.Proofs.Length.Contract
import TapeMeasure.Proofs.Program.Run
import TapeMeasure.Proofs.Token.Seam
import TapeMeasure.Proofs.Expr.Loss
import TapeMeasure.Proofs.Expr.Single
import TapeMeasure.Proofs.Expr.Pruned
import TapeMeasure.Proofs.Expr.Preorder
import TapeMeasure.Proofs.Length.Addition
import TapeMeasure.Proofs.Trace.Records
import TapeMeasure.Proofs.Length.RoundTrip
import TapeMeasure.Proofs.Length.Adjoint
import TapeMeasure.Proofs.Trace.Configured
import TapeMeasure.Proofs.Value.Shown
import TapeMeasure.Proofs.Length.Refused
import TapeMeasure.Token.Pairing
import TapeMeasure.Proofs.Token.Partner
import TapeMeasure.Proofs.Token.Paired
