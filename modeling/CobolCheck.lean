import CobolCheck.Command.Run
import CobolCheck.Main
import CobolCheck.Symbol.Operation
import CobolCheck.Proofs.Analysis.Closed
import CobolCheck.Proofs.Expression.Reach
import CobolCheck.Proofs.Statement.Permitted
import CobolCheck.Proofs.Statement.Reach
import CobolCheck.Proofs.Division.Entries
import CobolCheck.Proofs.Division.Reach
import CobolCheck.Proofs.Output
import CobolCheck.Proofs.Declarations
import CobolCheck.Proofs.Expression.Grammar
import CobolCheck.Proofs.Expression.Postorder
import CobolCheck.Proofs.Expression.Condition
import CobolCheck.Proofs.Analysis.Parallel
import CobolCheck.Proofs.Expression.Parallel
import CobolCheck.Proofs.Statement.Parallel
import CobolCheck.Proofs.Division.Parallel
import CobolCheck.Proofs.Analysis.Coupled
import CobolCheck.Proofs.Division.Coupled
import CobolCheck.Proofs.Statement.EndMarker
import CobolCheck.Proofs.Division.Seam
import CobolCheck.Proofs.Composition
import CobolCheck.Proofs.Source.Layout
import CobolCheck.Proofs.Analysis.Segment
import CobolCheck.Proofs.Brackets
import CobolCheck.Proofs.Source.Role
import CobolCheck.Proofs.Analysis.Ahead
import CobolCheck.Proofs.Analysis.Reads
import CobolCheck.Proofs.Expression.Arithmetic
import CobolCheck.Proofs.Expression.Comparison
import CobolCheck.Proofs.Statement.Grammar
import CobolCheck.Proofs.Statement.Reads
import CobolCheck.Proofs.Statement.Heads
import CobolCheck.Proofs.Statement.Nested
import CobolCheck.Proofs.Division.Procedure
import CobolCheck.Proofs.Acceptance
import CobolCheck.Proofs.Division.Description
import CobolCheck.Proofs.Division.Clauses
import CobolCheck.Proofs.Division.Data
import CobolCheck.Proofs.DataItems
import CobolCheck.Proofs.Anchors
import CobolCheck.Proofs.Statement.Skipped
import CobolCheck.Proofs.Statement.Shallow
import CobolCheck.Proofs.NestingLimit
import CobolCheck.Proofs.Independence
import CobolCheck.Proofs.Division.Shape
import CobolCheck.Proofs.Division.Declared
import CobolCheck.Proofs.Division.Units
import CobolCheck.Proofs.Returning
import CobolCheck.Proofs.CompleteUnits
import CobolCheck.Proofs.Analysis.Unreported
import CobolCheck.Proofs.Division.Complete
import CobolCheck.Proofs.Source.Numeral
import CobolCheck.Proofs.CompleteItems
import CobolCheck.Proofs.Analysis.Reread
import CobolCheck.Proofs.Division.Reread
import CobolCheck.Proofs.Division.Stopped
import CobolCheck.Proofs.FixedPoint
import CobolCheck.Proofs.Placement
import CobolCheck.Proofs.SymbolHistory
import CobolCheck.Proofs.Source.Recut
import CobolCheck.Proofs.Reprint
import CobolCheck.Proofs.Analysis.Further
import CobolCheck.Proofs.Statement.Further
import CobolCheck.Proofs.Division.Further
import CobolCheck.Proofs.Progress
import CobolCheck.Proofs.Source.Lines
import CobolCheck.Proofs.LineByLine
import CobolCheck.Proofs.LetterCase
import CobolCheck.Proofs.Json.Scalar
import CobolCheck.Proofs.Json.Value
import CobolCheck.Proofs.TokenExchange
import CobolCheck.Proofs.FieldNames
import CobolCheck.Proofs.Expression.Precedence
import CobolCheck.Proofs.Expression.Scan
import CobolCheck.Proofs.Expression.ArithmeticGrammar
import CobolCheck.Proofs.Analysis.Spending
import CobolCheck.Proofs.Statement.Spending
import CobolCheck.Proofs.Spending
import CobolCheck.Proofs.Analysis.Forked
import CobolCheck.Proofs.Statement.Forked
import CobolCheck.Proofs.Statement.Resumed
import CobolCheck.Proofs.Division.Forked
import CobolCheck.Proofs.Recovery
import CobolCheck.Proofs.Statement.Periods
import CobolCheck.Proofs.Statement.Repeated
import CobolCheck.Proofs.Statement.ArithmeticPlaces
import CobolCheck.Proofs.DuplicateItems
import CobolCheck.Proofs.Source.Signs
import CobolCheck.Proofs.PositionSums
import CobolCheck.Proofs.Statement.Depth
import CobolCheck.Proofs.BoundedNesting
import CobolCheck.Proofs.Analysis.Parted
import CobolCheck.Proofs.Expression.Parted
import CobolCheck.Proofs.Statement.Parted
import CobolCheck.Proofs.Statement.Unclosed
import CobolCheck.Proofs.MissingMarker
import CobolCheck.Proofs.SkippedScope
