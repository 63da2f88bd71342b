import CobolCheck.Token

/-!
# Reserved words

The word lists that give a word of a source text its category and context.
Words are compared in upper case, so every list is written in upper case.
-/

namespace CobolCheck.Word

/-- Words that begin a statement. -/
def statementWords : List String :=
  ["ACCEPT", "ADD", "ALLOCATE", "CALL", "CANCEL", "CLOSE", "COMMIT", "COMPUTE", "CONTINUE",
   "DELETE", "DISPLAY", "DIVIDE", "EVALUATE", "EXIT", "FREE", "GENERATE", "GO", "GOBACK", "IF",
   "INITIALIZE", "INITIATE", "INSPECT", "INVOKE", "MERGE", "MOVE", "MULTIPLY", "OPEN",
   "PERFORM", "RAISE", "READ", "RELEASE", "RESUME", "RETURN", "REWRITE", "ROLLBACK", "SEARCH",
   "SET", "SORT", "START", "STOP", "STRING", "SUBTRACT", "SUPPRESS", "TERMINATE", "UNLOCK",
   "UNSTRING", "VALIDATE", "WRITE"]

/-- Words that begin a clause of a data description entry. -/
def clauseWords : List String :=
  ["BASED", "BINARY", "COMP", "COMPUTATIONAL", "EXTERNAL", "GLOBAL", "IS", "JUST", "JUSTIFIED",
   "PACKED-DECIMAL", "PIC", "PICTURE", "SYNC", "SYNCHRONIZED", "TYPEDEF", "VALUE"]

/-- Words that stand for a literal value. -/
def figurativeWords : List String :=
  ["HIGH-VALUE", "HIGH-VALUES", "LOW-VALUE", "LOW-VALUES", "NULL", "NULLS", "QUOTE", "QUOTES",
   "SPACE", "SPACES", "ZERO", "ZEROES", "ZEROS"]

/-- The reserved words without a role of their own. -/
def plainWords : List String :=
  ["ADVANCING", "AFTER", "ALPHABETIC", "ALPHABETIC-LOWER", "ALPHABETIC-UPPER", "AND", "AS",
   "AT", "BY", "BYTE-LENGTH", "CHARACTERS", "COMMAND-LINE", "CONSTANT", "CORR",
   "CORRESPONDING", "CYCLE", "DATA", "DATE", "DAY", "DAY-OF-WEEK", "DEPENDING", "DIVISION",
   "ELSE", "END", "END-ACCEPT", "END-ADD", "END-CALL", "END-COMPUTE", "END-DELETE",
   "END-DISPLAY", "END-DIVIDE", "END-IF", "END-MULTIPLY", "END-RETURN", "END-REWRITE",
   "END-SUBTRACT", "ENVIRONMENT", "EQUAL", "ERROR", "EXCEPTION", "FILE", "FOR", "FOREVER",
   "FROM", "FUNCTION", "FUNCTION-ID", "GIVING", "GREATER", "IDENTIFICATION", "INITIALIZED",
   "INTO", "INVALID", "KEY", "LAST", "LENGTH", "LESS", "LINKAGE", "LOCAL-STORAGE", "LOCK",
   "NEGATIVE", "NEXT", "NO", "NORMAL", "NOT", "NUMERIC", "OF", "ON", "OR", "OVERRIDE",
   "PARAGRAPH", "POSITIVE", "PRINTING", "PROCEDURE", "PROGRAM", "PROGRAM-ID", "RAISING",
   "RECORD", "RECORDS", "REEL", "REMAINDER", "REMOVAL", "RETRY", "RETURNING", "REWIND", "RUN",
   "SECONDS", "SECTION", "SENTENCE", "SIZE", "STANDARD-ERROR", "STANDARD-INPUT",
   "STANDARD-OUTPUT", "STATEMENT", "STATUS", "THAN", "THEN", "TIME", "TIMES", "TO", "UNIT",
   "UPON", "WITH", "WORKING-STORAGE", "YYYYDDD", "YYYYMMDD"]

/-- Whether a word has the shape of an END marker, such as `END-IF`. -/
def isEndMarker (word : String) : Bool :=
  "END-".toList.isPrefixOf word.toList

/-- The category and context of a word in upper case. A word on no list is an
identifier, unless it has the shape of an END marker. -/
def classify (word : String) : Category × Context :=
  if statementWords.contains word then (.reserved, .statement)
  else if clauseWords.contains word then (.reserved, .clause)
  else if figurativeWords.contains word then (.figurative, .plain)
  else if plainWords.contains word || isEndMarker word then (.reserved, .plain)
  else (.identifier, .plain)

/-- Only reserved words begin a statement. -/
theorem classify_statement_iff (word : String) :
    (classify word).2 = .statement ↔ word ∈ statementWords := by
  unfold classify
  by_cases statement : word ∈ statementWords
  · simp [statement]
  · simp only [List.contains_eq_mem, statement, decide_false, Bool.false_eq_true, if_false,
      iff_false]
    repeat' split
    all_goals simp

end CobolCheck.Word
