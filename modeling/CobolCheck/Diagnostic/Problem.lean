import CobolCheck.SourceUnit
import CobolCheck.Statement.Phrase

/-!
# Problems

What can be wrong with a program beyond a single unexpected token, and how each
of these problems is explained.
-/

namespace CobolCheck

/-- A division of a source unit. -/
inductive Division where
  | identification
  | environment
  | data
  | procedure
  deriving DecidableEq

/-- The word that begins the header of a division. -/
def Division.keyword : Division → String
  | .identification => "IDENTIFICATION"
  | .environment => "ENVIRONMENT"
  | .data => "DATA"
  | .procedure => "PROCEDURE"

/-- A problem of structure or meaning. -/
inductive Problem where
  /-- A division header has no separator period. -/
  | headerPeriod (division : Division)
  /-- There is text after the last source unit. -/
  | leftoverTokens
  /-- A source unit has no ID paragraph. -/
  | missingUnitName
  /-- A source unit has no END marker where it needs one. -/
  | missingEndMarker (kind : UnitKind)
  /-- An END marker names another unit. -/
  | endMarkerName (kind : UnitKind) (unitName : String)
  /-- An END marker has no separator period. -/
  | endMarkerPeriod (kind : UnitKind)
  /-- A RETURNING phrase has no data item. -/
  | missingReturningItem
  /-- The data item of a RETURNING phrase is not declared. -/
  | undeclaredReturningItem
  /-- A data item is declared twice. -/
  | duplicateItem (first : Duplicate)
  /-- An entry begins with a level number that only follows a record. -/
  | entryLevel
  /-- A constant has another level number than 01. -/
  | constantLevel
  /-- A word after a data name begins no clause. -/
  | noClause (found : String)
  /-- A data description entry has no separator period. -/
  | entryPeriod
  /-- The word IS belongs to no clause. -/
  | loneIs
  /-- The external name is no literal. -/
  | externalName
  /-- The type of a picture is unknown. -/
  | pictureType
  /-- A picture without digits has a scale. -/
  | scaleOfText
  /-- An initial value is no literal. -/
  | initialValue
  /-- The parentheses of a condition do not match. -/
  | unbalancedCondition
  /-- An operator of a condition lacks an operand. -/
  | invalidCondition
  /-- Two arithmetic operators stand side by side. -/
  | consecutiveOperators
  /-- An arithmetic expression ends with an operator. -/
  | trailingOperator
  /-- An arithmetic expression begins with an operator that is no sign. -/
  | leadingOperator
  /-- A symbol has no place in an arithmetic expression. -/
  | arithmeticSymbol
  /-- A pair of parentheses of an arithmetic expression is empty. -/
  | emptyParentheses
  /-- The parentheses of an arithmetic expression do not match. -/
  | unbalancedArithmetic
  /-- Statement sequences are nested beyond the limit. -/
  | nestedTooDeeply
  /-- A statement is not supported. -/
  | unsupportedStatement (keyword : String)
  /-- The NEXT SENTENCE phrase is not supported. -/
  | nextSentence
  /-- A statement has the same form of a conditional phrase twice. -/
  | repeatedPhrase (phrase : Phrase) (polarity : Polarity)
  /-- The operands of a CANCEL statement are wrong. -/
  | cancelOperands
  /-- The operands of a CLOSE statement are wrong. -/
  | closeOperands
  /-- The source of a MOVE statement is wrong. -/
  | moveSource
  /-- The targets of a MOVE statement are wrong. -/
  | moveTargets
  /-- The operands of a FREE statement are wrong. -/
  | freeOperands
  /-- The operands of an INITIATE or TERMINATE statement are wrong. -/
  | reportOperands (keyword : String)
  /-- The operands of a VALIDATE statement are wrong. -/
  | validateOperands
  /-- A remark in words of its own. -/
  | remark (text : String)
  deriving DecidableEq

/-- The explanation of a problem. -/
def Problem.text : Problem → String
  | headerPeriod division =>
      "Missing separator period at the end of this " ++ division.keyword ++
        " DIVISION header, every division header must end with a separator period."
  | leftoverTokens =>
      "Unexpected tokens after the end of this source unit. Every statement must be within a " ++
        "PROCEDURE DIVISION, and every source unit must start with an ID paragraph."
  | missingUnitName =>
      "Missing source unit ID name (PROGRAM-ID, FUNCTION-ID, CLASS-ID...), the identification " ++
        "division header is optional but every source unit must still have an ID."
  | missingEndMarker .function =>
      "Missing END FUNCTION marker. User-defined functions must always end with an END FUNCTION " ++
        "marker."
  | missingEndMarker .program =>
      "Missing END PROGRAM marker. If another source unit is present after the end of the " ++
        "current source unit, the current unit must contain an END marker."
  | endMarkerName kind unitName =>
      "The name on this END " ++ kind.keyword ++ " marker must match the " ++ kind.keyword ++
        "-ID of the source unit it ends ('" ++ unitName ++ "')."
  | endMarkerPeriod kind =>
      "Missing separator period at the end of this END " ++ kind.keyword ++ " definition."
  | missingReturningItem =>
      "Missing returning data item after this RETURNING definition."
  | undeclaredReturningItem =>
      "No data item found with this name in this source unit's data division. Please define a " ++
        "new returning data item in this unit's linkage section."
  | duplicateItem first =>
      "A data item with this name already exists in this program, data items in a program must " ++
        "have a unique name. The original " ++ first.identifier ++
        " data item can be found at line " ++ first.line.repr ++ "."
  | entryLevel =>
      "Invalid level number for this data item, entries must begin with a level number of 01 or " ++
        "77. Level numbers 02 to 49 may only follow a level 01 record entry."
  | constantLevel =>
      "Invalid level number for this data item, CONSTANT data items must have a level number of " ++
        "1 or 01."
  | noClause found =>
      "Expected data division clauses or a separator period after this data item's identifier. " ++
        "Token found ('" ++ found ++ "') was not a data division clause reserved word."
  | entryPeriod =>
      "Missing separator period at the end of this data item definition, each data item must " ++
        "end with a separator period."
  | loneIs =>
      "Missing clause or possible clause mismatch, in this context the \"IS\" word must be " ++
        "followed by the EXTERNAL, GLOBAL or TYPEDEF clauses only (IS TYPEDEF), or must be in " ++
        "the middle of the PICTURE clause (PIC IS ...)."
  | externalName =>
      "Missing externalized name, the \"AS\" word on the EXTERNAL clause must be followed by an " ++
        "alphanumeric or national literal."
  | pictureType =>
      "Unrecognized type, PICTURE type must be S9, 9, X, A, N or 1. These are Signed Numeric, " ++
        "Unsigned Numeric, Alphanumeric, Alphabetic, National and Boolean respectively."
  | scaleOfText => "V9 cannot be used with non-numeric types."
  | initialValue =>
      "The only tokens allowed after a VALUE clause are type literals, like an Alphanumeric " ++
        "literal (\"Hello, World!\") or a Numeric literal (123.456)."
  | unbalancedCondition =>
      "This expression is not balanced, one or more parenthesis do not have their matching " ++
        "opening or closing pair, it is an invalid expression."
  | invalidCondition =>
      "This expression cannot be correctly evaluated. Please make sure that all operators have " ++
        "their matching operands."
  | consecutiveOperators =>
      "Invalid token after an arithmetic operator, expected a numeric literal or identifier " ++
        "instead of another arithmetic operator."
  | trailingOperator =>
      "Invalid arithmetic expression, expected a numeric literal or identifier after this " ++
        "operator. Arithmetic expressions cannot end with an operator."
  | leadingOperator =>
      "Invalid arithmetic expression, expected a numeric literal or identifier before this " ++
        "operator."
  | arithmeticSymbol =>
      "Invalid symbol in this arithmetic expression. Valid operators are: +, -, *, /, **, ( and )."
  | emptyParentheses =>
      "Invalid arithmetic expression, expected a numeric literal or identifier between these " ++
        "parentheses."
  | unbalancedArithmetic =>
      "This arithmetic expression is not balanced, one or more parenthesis do not have their " ++
        "matching opening or closing pair."
  | nestedTooDeeply =>
      "Statements are nested too deeply. The rest of this nested scope has been skipped, and " ++
        "will not be analyzed."
  | unsupportedStatement keyword =>
      "Unsupported statement: " ++ keyword ++
        " statements are not currently supported by this compiler."
  | nextSentence =>
      "Unsupported phrase: NEXT SENTENCE is an archaic feature. This phrase can be confusing " ++
        "and is a common source of errors. The CONTINUE statement can be used to accomplish the " ++
        "same functionality while being much clearer and less prone to error."
  | repeatedPhrase phrase polarity =>
      phrase.name polarity ++ " can only be specified once in this statement. The same applies to "
        ++ phrase.name polarity.other ++ "."
  | cancelOperands =>
      "The CANCEL statement only accepts Alphanumeric or National literals and data items, or a " ++
        "program prototype name specified in the REPOSITORY paragraph."
  | closeOperands =>
      "The CLOSE statement only accepts file connector names. NOTE: This statement must not " ++
        "specify more than one file connector when inside of an exception-checking phrase in a " ++
        "PERFORM statement."
  | moveSource =>
      "The MOVE statement must only contain a single data item identifier, datatype literal or " ++
        "an intrisic function which returns a data item before the \"TO\" reserved word."
  | moveTargets =>
      "The MOVE statement must only contain data item identifiers after the \"TO\" reserved word."
  | freeOperands => "The FREE statement must only contain based data item identifiers."
  | reportOperands keyword =>
      "The " ++ keyword ++
        " statement must only contain report entry identifiers defined in the report section."
  | validateOperands => "The VALIDATE statement must only contain data item identifiers."
  | remark text => text

end CobolCheck
