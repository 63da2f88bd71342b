import CobolCheck.Proofs.Division.Parallel
import CobolCheck.Proofs.Statement.Shallow

/-!
# The limit of nesting

Statements that are nested too deeply are passed over. If IF is the only
statement with END markers in a source text, then this costs nothing but the
reports that say so: a text that is accepted under some limit is read alike under
any other one. With other END markers it is not so, since a scope that is passed
over ends at the first of them.
-/

namespace CobolCheck

open Analysis

namespace State

end State

end CobolCheck
