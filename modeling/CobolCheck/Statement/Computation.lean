import CobolCheck.Statement.Phrases

/-!
# Arithmetic statements
-/

namespace CobolCheck.Form

/-- `GIVING identifier {identifier}` -/
def giving : Form :=
  all [expect "GIVING", identifiers]

/-- The operands before the target of an addition or subtraction. -/
def addends : Form :=
  operands₁ [.identifier, .numeric] "identifier or numeric literal"

/-- Whether the cursor is at one of the words and an operand and GIVING follow. -/
def givingAfter (words : List String) : Test :=
  .and (.isAny words) (.word 2 ["GIVING"])

/-- `COMPUTE identifier {identifier} = arithmetic [size error phrases] [END-COMPUTE]` -/
def compute : Form :=
  all [expect "COMPUTE", identifiers, expect "=", arithmetic,
    conditional .sizeError "END-COMPUTE"]

/-- `ADD operands (TO operand GIVING targets | GIVING targets | TO targets)
[size error phrases] [END-ADD]` -/
def add : Form :=
  all [expect "ADD", addends,
    branch (givingAfter ["TO"]) (all [expect "TO", identifierOrNumber, giving])
      (branch (.is "GIVING") giving
        (branch (.is "TO") (all [accept, identifiers])
          (report (.expectedOneOf ["TO", "GIVING"])))),
    conditional .sizeError "END-ADD"]

/-- `SUBTRACT operands FROM (operand GIVING targets | targets)
[size error phrases] [END-SUBTRACT]` -/
def subtract : Form :=
  all [expect "SUBTRACT", addends,
    branch (givingAfter ["FROM"]) (all [expect "FROM", identifierOrNumber, giving])
      (branch (.is "FROM") (all [accept, identifiers]) (missing "FROM")),
    conditional .sizeError "END-SUBTRACT"]

/-- `MULTIPLY operand BY (operand GIVING targets | targets)
[size error phrases] [END-MULTIPLY]` -/
def multiply : Form :=
  all [expect "MULTIPLY", identifierOrNumber,
    branch (givingAfter ["BY"]) (all [expect "BY", identifierOrNumber, giving])
      (branch (.is "BY") (all [accept, identifiers]) (missing "BY")),
    conditional .sizeError "END-MULTIPLY"]

/-- `DIVIDE operand ((BY | INTO) operand GIVING (target REMAINDER target | targets) |
INTO targets) [size error phrases] [END-DIVIDE]` -/
def divide : Form :=
  all [expect "DIVIDE", identifierOrNumber,
    branch (givingAfter ["BY", "INTO"])
      (all [choose ["BY", "INTO"] none, identifierOrNumber, expect "GIVING",
        branch (.next "REMAINDER") (all [identifier, expect "REMAINDER", identifier])
          identifiers])
      (branch (.is "INTO") (all [accept, identifiers])
        (report (.expectedOneOf ["BY", "INTO"]))),
    conditional .sizeError "END-DIVIDE"]

end CobolCheck.Form
