import CobolCheck.Statement.Form

/-!
# Phrases that several statements share
-/

namespace CobolCheck.Form

/-! ## Raising and status -/

/-- `RAISING (EXCEPTION identifier | LAST [EXCEPTION] | identifier)` -/
def raising : Form :=
  all [expect "RAISING",
    branch (.is "EXCEPTION") (all [accept, identifier])
      (branch (.is "LAST") (all [accept, optional "EXCEPTION"]) identifier)]

/-- `[WITH] (NORMAL | ERROR) [STATUS] [value]` -/
def status : Form :=
  all [optional "WITH", choose ["NORMAL", "ERROR"] none, optional "STATUS",
    whenever (.has [.identifier, .numeric, .string]) [accept]]

/-- Whether a status phrase begins at the cursor. -/
def statusAhead : Test :=
  .isAny ["WITH", "NORMAL", "ERROR"]

/-! ## Retrying -/

/-- `RETRY (FOREVER | [FOR] arithmetic SECONDS | arithmetic TIMES)` -/
def retry : Form :=
  all [expect "RETRY",
    branch (.is "FOREVER") accept
      (branch (.is "FOR") (all [accept, arithmetic, expect "SECONDS"])
        (all [arithmetic, branch (.is "SECONDS") accept (expect "TIMES")]))]

/-- A retry phrase that may be left out. -/
def optionalRetry : Form :=
  whenever (.is "RETRY") [retry]

/-! ## Conditional phrases -/

/-- The words of the positive form of a pair that introduce its statements. -/
def introduction : Phrase → Form
  | .sizeError => all [optional "ON", expect "SIZE", expect "ERROR"]
  | .invalidKey => all [expect "INVALID", optional "KEY"]
  | .onException => all [optional "ON", expect "EXCEPTION"]
  | .atEnd => all [optional "AT", expect "END"]
  | .raisingStatus => done

/-- Conditional phrases of a pair, each with a nested sequence of statements,
and the END marker of their statement. -/
def conditional (phrase : Phrase) (marker : String) : Form :=
  phrases phrase (all [introduction phrase, nested])
    (all [expect "NOT", introduction phrase, nested]) (some marker)

end CobolCheck.Form
