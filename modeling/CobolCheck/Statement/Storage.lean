import CobolCheck.Statement.Phrases

/-!
# Statements on storage and reports
-/

namespace CobolCheck.Form

/-! ## Storage -/

/-- Whether the identifier at the cursor begins the size of an allocation, and
is not the item that is allocated. -/
def sizeAhead : Test :=
  .or (.next "CHARACTERS") (.and (.category 1 [.symbol]) (.not (.next ".")))

/-- `ALLOCATE [identifier] [arithmetic CHARACTERS] [INITIALIZED] [RETURNING identifier]` -/
def allocate : Form :=
  all [expect "ALLOCATE",
    whenever (.and .identifier (.not sizeAhead)) [accept],
    whenever (.has [.identifier, .numeric]) [arithmetic, expect "CHARACTERS"],
    optional "INITIALIZED", optionally "RETURNING" [identifier]]

/-- `FREE identifier {identifier}` -/
def free : Form :=
  all [expect "FREE", operandList [.identifier] .freeOperands]

/-- The source of a MOVE statement. A missing source is reported, and whatever
stands in its place is passed over unless that is the word TO. -/
def movedValue : Form :=
  branch (.has [.identifier, .numeric, .string, .figurative]) accept
    (seq (report (.general .moveSource)) (branch (.is "TO") done skip))

/-- `MOVE (CORRESPONDING | CORR) identifier TO identifier` or
`MOVE source TO identifier {identifier}` -/
def move : Form :=
  all [expect "MOVE",
    branch (.isAny ["CORRESPONDING", "CORR"])
      (all [accept, identifier, expect "TO", identifier])
      (all [movedValue, expect "TO", operandList [.identifier] .moveTargets])]

/-- `VALIDATE identifier {identifier}` -/
def validate : Form :=
  all [expect "VALIDATE", operandList [.identifier] .validateOperands]

/-! ## Reports -/

/-- `(INITIATE | TERMINATE) identifier {identifier}` -/
def reportStatement (keyword : String) : Form :=
  all [expect keyword, operandList [.identifier] (.reportOperands keyword)]

/-- `GENERATE identifier` -/
def generate : Form :=
  all [expect "GENERATE", identifier]

/-- `SUPPRESS [PRINTING]` -/
def suppress : Form :=
  all [expect "SUPPRESS", optional "PRINTING"]

end CobolCheck.Form
