import Reckon.Expression.Tree
import Reckon.Main
import Reckon.Expression.Script
import Reckon.Proofs.Draft
import Reckon.Proofs.Meaning
import Reckon.Proofs.Nesting
import Reckon.Proofs.Production
import Reckon.Proofs.Progress
import Reckon.Proofs.Line
import Reckon.Proofs.Misfit
import Reckon.Proofs.Causes
import Reckon.Proofs.Levels
import Reckon.Proofs.NestingGuard
import Reckon.Proofs.Delivery
import Reckon.Proofs.Segments
import Reckon.Proofs.Decoding
import Reckon.Proofs.Alike
import Reckon.Proofs.Channels
import Reckon.Proofs.ReadAhead
import Reckon.Proofs.Framing
import Reckon.Proofs.Exactness
import Reckon.Expression.Operation
import Reckon.Proofs.Bookkeeping
import Reckon.Proofs.LineEnd
import Reckon.Proofs.Report
import Reckon.Proofs.Answers
import Reckon.Proofs.Composition
import Reckon.Proofs.Denotation
import Reckon.Proofs.Follow
import Reckon.Proofs.ReadFailure
import Reckon.Proofs.Recognition
import Reckon.Proofs.Verdicts
import Reckon.Proofs.Balance
import Reckon.Proofs.Ascii
import Reckon.Proofs.Boundary
import Reckon.Proofs.Underline
import Reckon.Proofs.Squaring
import Reckon.Proofs.Decimal
import Reckon.Proofs.LineTable
import Reckon.Proofs.Colours
import Reckon.Proofs.Trace
import Reckon.Proofs.Recount
import Reckon.Proofs.Retry
import Reckon.Proofs.Verbosity
