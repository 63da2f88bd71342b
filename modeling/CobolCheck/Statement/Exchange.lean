import CobolCheck.Statement.Phrases

/-!
# Statements that exchange data with devices and files
-/

namespace CobolCheck.Form

/-! ## Devices -/

/-- `DISPLAY values [UPON device] [[WITH] NO ADVANCING] [END-DISPLAY]` -/
def display : Form :=
  all [expect "DISPLAY", operands₁ [.identifier, .numeric, .string] "identifier or literal",
    optionally "UPON" [choose ["STANDARD-OUTPUT", "STANDARD-ERROR"] (some .device)],
    whenever (.isAny ["WITH", "NO"]) [optional "WITH", expect "NO", expect "ADVANCING"],
    optional "END-DISPLAY"]

/-- What an ACCEPT statement reads from: a device, or the date and time in one
of several formats. -/
def acceptSource : Form :=
  branch (.isAny ["STANDARD-INPUT", "COMMAND-LINE"])
    (choose ["STANDARD-INPUT", "COMMAND-LINE"] (some .device))
    (branch (.is "DATE") (all [accept, optional "YYYYMMDD"])
      (branch (.is "DAY") (all [accept, optional "YYYYDDD"])
        (choose
          ["STANDARD-INPUT", "COMMAND-LINE", "DATE", "DAY", "DAY-OF-WEEK", "TIME"] none)))

/-- `ACCEPT identifier [FROM source] [END-ACCEPT]` -/
def acceptItem : Form :=
  all [expect "ACCEPT", identifier, optionally "FROM" [acceptSource], optional "END-ACCEPT"]

/-! ## Files -/

/-- `file [(REEL | UNIT) [[FOR] REMOVAL] | [WITH] NO REWIND]` -/
def closedFile : Form :=
  all [accept,
    branch (.isAny ["REEL", "UNIT"])
      (all [accept,
        whenever (.isAny ["FOR", "REMOVAL"]) [optional "FOR", expect "REMOVAL"]])
      (whenever (.isAny ["WITH", "NO"]) [optional "WITH", expect "NO", expect "REWIND"])]

/-- `CLOSE file ... {file ...}` -/
def closeFiles : Form :=
  all [expect "CLOSE", restOf .identifier closedFile .closeOperands]

/-- `DELETE FILE [OVERRIDE] file {file} [RETRY ...] [exception phrases] [END-DELETE]` or
`DELETE record [RECORD] [RETRY ...] [invalid key phrases] [END-DELETE]` -/
def delete : Form :=
  all [expect "DELETE",
    branch (.is "FILE")
      (all [accept, optional "OVERRIDE", identifier, operands [.identifier], optionalRetry,
        conditional .onException "END-DELETE"])
      (all [identifier, optional "RECORD", optionalRetry,
        conditional .invalidKey "END-DELETE"])]

/-- `[WITH] (LOCK | NO LOCK)` -/
def lockMode : Form :=
  all [optional "WITH", branch (.is "LOCK") accept (all [expect "NO", expect "LOCK"])]

/-- `REWRITE (FILE file RECORD FROM value | record [RECORD] [FROM value]) [RETRY ...]
[lock] [invalid key phrases] [END-REWRITE]` -/
def replaceRecord : Form :=
  all [expect "REWRITE",
    branch (.is "FILE") (all [accept, identifier, expect "RECORD", expect "FROM", value])
      (all [identifier, optional "RECORD", optionally "FROM" [value]]),
    optionalRetry,
    whenever (.isAny ["WITH", "LOCK", "NO"]) [lockMode],
    conditional .invalidKey "END-REWRITE"]

/-- `RETURN file [RECORD] [INTO identifier] [RETRY ...] [at end phrases] [END-RETURN]` -/
def returnRecord : Form :=
  all [expect "RETURN", identifier, optional "RECORD", optionally "INTO" [identifier],
    optionalRetry, conditional .atEnd "END-RETURN"]

/-- `RELEASE record [FROM value]` -/
def release : Form :=
  all [expect "RELEASE", identifier, optionally "FROM" [value]]

/-- `UNLOCK file [RECORD | RECORDS]` -/
def unlock : Form :=
  all [expect "UNLOCK", identifier, whenever (.isAny ["RECORD", "RECORDS"]) [accept]]

end CobolCheck.Form
