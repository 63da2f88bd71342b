import CobolCheck.Statement.Phrases

/-!
# Statements that control the flow of a program
-/

namespace CobolCheck.Form

/-! ## Choice -/

/-- The statements of one branch of an IF statement. -/
def branchBody : Form :=
  all [whenever .nextSentence [report (.general .nextSentence), accept, accept], nested]

/-- `IF condition [THEN] statements [ELSE statements] END-IF` -/
def ifElse : Form :=
  all [expect "IF", condition "THEN", optional "THEN", branchBody,
    optionally "ELSE" [branchBody], close "END-IF"]

/-! ## Transfer within a program -/

/-- `CONTINUE [AFTER arithmetic SECONDS]` -/
def continuing : Form :=
  all [expect "CONTINUE", optionally "AFTER" [arithmetic, expect "SECONDS"]]

/-- `EXIT [PERFORM [CYCLE] | PROGRAM [RAISING ...] | PARAGRAPH | SECTION]` -/
def exit : Form :=
  all [expect "EXIT",
    branch (.is "PERFORM") (all [accept, optional "CYCLE"])
      (branch (.is "PROGRAM") (all [accept, whenever (.is "RAISING") [raising]])
        (branch (.is "PARAGRAPH") accept (optional "SECTION")))]

/-- `GO [TO] identifier [{identifier} DEPENDING [ON] identifier]` -/
def goTo : Form :=
  all [expect "GO", optional "TO", identifier,
    whenever (.or (.is "DEPENDING") .identifier)
      [operands [.identifier], expect "DEPENDING", optional "ON", identifier]]

/-- `GOBACK [RAISING ...] [WITH NORMAL|ERROR STATUS ...]` -/
def goBack : Form :=
  all [expect "GOBACK", phrases .raisingStatus raising status none]

/-- `STOP RUN [[WITH] NORMAL|ERROR [STATUS] value]` -/
def stop : Form :=
  all [expect "STOP", expect "RUN", whenever statusAhead [status]]

/-- `RAISE [EXCEPTION] identifier` -/
def raise : Form :=
  all [expect "RAISE", optional "EXCEPTION", identifier]

/-- `RESUME [AT] (NEXT STATEMENT | identifier)` -/
def resume : Form :=
  all [expect "RESUME", optional "AT",
    branch (.is "NEXT") (all [accept, expect "STATEMENT"]) identifier]

/-! ## Other programs -/

/-- `CALL (literal | identifier) [END-CALL]` -/
def call : Form :=
  all [expect "CALL", operand [.string, .identifier] "program name literal or identifier",
    optional "END-CALL"]

/-- `CANCEL (literal | identifier) {literal | identifier}` -/
def cancel : Form :=
  all [expect "CANCEL", operandList [.identifier, .string] .cancelOperands]

end CobolCheck.Form
