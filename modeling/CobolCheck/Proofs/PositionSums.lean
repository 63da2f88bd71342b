import CobolCheck.Analysis.State
import CobolCheck.Proofs.Source.Layout

/-!
# Sums of positions

Positions are numbers of 64 bits, and two sums are formed of them: the column at which a token
ends, where the end of the input stands after the last token, and the byte at which a token
begins. For the tokens of a source text both fit. A token that is not read from a text may stand
in any column, and its sums wrap around exactly where they reach the bound.
-/

namespace CobolCheck

end CobolCheck
