import CobolCheck.Analysis.Matcher

/-!
# Reading arithmetic expressions

An arithmetic expression ends at the first token that cannot continue it. Its
operators and parentheses are checked while it is read.
-/

namespace CobolCheck

/-- What was read last in an arithmetic expression. -/
inductive Preceding where
  | start
  | operand
  /-- An operator, with its token unless it was no valid symbol. -/
  | operator (token : Option Token)
  | opening
  | closing
  deriving DecidableEq

namespace Preceding

/-- Whether an operand is complete, so that another one cannot follow. -/
def complete : Preceding → Bool
  | operand => true
  | closing => true
  | _ => false

end Preceding

/-- How far an arithmetic expression has been read: what was read last, how many
parentheses are open, whether one was closed that was not open, and whether
nothing was reported. -/
structure ArithmeticScan where
  preceding : Preceding := .start
  depth : Nat := 0
  crossed : Bool := false
  sound : Bool := true

/-- The symbols of the arithmetic operators. -/
def isArithmeticOperator (symbol : String) : Bool :=
  ["+", "-", "*", "/", "**"].contains symbol

namespace Analysis

/-- Reports a problem of an arithmetic expression. -/
def complain (token : Token) (problem : Problem) (scan : ArithmeticScan) :
    Analysis ArithmeticScan := do
  report token (.general problem)
  return { scan with sound := false }

/-- An operator at the end of an expression lacks an operand. -/
def complainOfTrailing (scan : ArithmeticScan) : Analysis ArithmeticScan :=
  match scan.preceding with
  | .operator (some token) => complain token .trailingOperator scan
  | _ => return scan

/-- Reads a closing parenthesis. -/
def closeParenthesis (token : Token) (scan : ArithmeticScan) : Analysis ArithmeticScan := do
  let scan ←
    match scan.preceding with
    | .opening => complain token .emptyParentheses scan
    | _ => complainOfTrailing scan
  accept
  return { scan with
    preceding := .closing, depth := scan.depth - 1, crossed := scan.crossed || scan.depth == 0 }

/-- Reads an operator. Only a sign may stand before the first operand. -/
def readOperator (token : Token) (scan : ArithmeticScan) : Analysis ArithmeticScan := do
  let leads := !(token.is "+" || token.is "-")
  let scan ←
    match scan.preceding with
    | .operator _ => complain token .consecutiveOperators scan
    | .start => if leads then complain token .leadingOperator scan else pure scan
    | .opening => if leads then complain token .leadingOperator scan else pure scan
    | _ => pure scan
  accept
  return { scan with preceding := .operator (some token) }

/-- Reads one token of an arithmetic expression, unless the expression ends before it. -/
def readArithmetic (scan : ArithmeticScan) : Analysis (Option ArithmeticScan) := do
  let token ← current
  match token.category with
  | .identifier | .numeric =>
      if scan.preceding.complete then return none
      else
        accept
        return some { scan with preceding := .operand }
  | .symbol =>
      if token.is "(" then
        if scan.preceding.complete then return none
        else
          accept
          return some { scan with preceding := .opening, depth := scan.depth + 1 }
      else if token.is ")" then return some (← closeParenthesis token scan)
      else if isArithmeticOperator token.value then return some (← readOperator token scan)
      else if token.is "." then return none
      else
        let scan ← complain token .arithmeticSymbol scan
        skip
        return some { scan with preceding := .operator none }
  | _ => return none

/-- Reads an arithmetic expression, and tells whether nothing was wrong with it. -/
def arithmetic : Analysis Bool := do
  let first ← current
  let scan ← loop readArithmetic {}
  let scan ←
    if scan.preceding = .start then
      reportHere
        (.expectedCategory "identifier, numeric literal or valid arithmetic symbol")
      pure { scan with sound := false }
    else complainOfTrailing scan
  let scan ←
    if scan.crossed || scan.depth != 0 then complain first .unbalancedArithmetic scan
    else pure scan
  return scan.sound

end Analysis

end CobolCheck
