import CobolCheck.Diagnostic.Problem
import CobolCheck.Token.Span

/-!
# Diagnostics

A diagnostic says what went wrong at which token of which file. Its message and
its code follow from its cause and its token.
-/

namespace CobolCheck

/-- Why a diagnostic is reported. -/
inductive Cause where
  /-- One word or symbol was expected. -/
  | expectedLiteral (literal : String)
  /-- A token of some category was expected. -/
  | expectedCategory (description : String)
  /-- One of several words was expected. -/
  | expectedOneOf (literals : List String)
  /-- There is a problem of structure or meaning. -/
  | general (problem : Problem)
  deriving DecidableEq

namespace Cause

/-- The message for a cause that was met at the token `found`. -/
def message (cause : Cause) (found : Token) : String :=
  match cause with
  | expectedLiteral literal =>
      "Expected '" ++ literal ++ "', instead found '" ++ found.display ++ "'."
  | expectedCategory description =>
      "Expected " ++ description ++ ", instead found '" ++ found.display ++ "'."
  | expectedOneOf literals =>
      "Expected one of: " ++ ", ".intercalate literals ++ ", instead found '" ++
        found.display ++ "'."
  | general problem => problem.text

/-- The code of a kind of cause, which does not depend on the wording. -/
def code : Cause → String
  | expectedLiteral _ => "cobalt::analyzer::expected"
  | expectedCategory _ => "cobalt::analyzer::expected_category"
  | expectedOneOf _ => "cobalt::analyzer::choice"
  | general _ => "cobalt::analyzer::general"

end Cause

/-- A cause and the token it was met at. -/
structure Report where
  token : Token
  cause : Cause
  deriving DecidableEq

/-- A report and the file it is about. -/
structure Diagnostic where
  file : String
  token : Token
  cause : Cause
  deriving DecidableEq

/-- A report as a diagnostic of a file. -/
def Report.inFile (file : String) (report : Report) : Diagnostic :=
  ⟨file, report.token, report.cause⟩

namespace Diagnostic

/-- The message of a diagnostic. -/
def message (diagnostic : Diagnostic) : String :=
  diagnostic.cause.message diagnostic.token

/-- The code of a diagnostic. -/
def code (diagnostic : Diagnostic) : String :=
  diagnostic.cause.code

/-- A diagnostic on one line, after the place of its token. -/
def line (diagnostic : Diagnostic) : String :=
  "error: " ++ diagnostic.file ++ ":" ++ diagnostic.token.line.repr ++ ":" ++
    diagnostic.token.column.repr ++ ": " ++ diagnostic.message

end Diagnostic

/-- A labelled stretch of a source text. -/
structure Label where
  text : String
  span : Span
  deriving DecidableEq

/-- A diagnostic as it is shown beside the source text it is about. -/
structure Excerpt where
  file : String
  message : String
  code : String
  help : String
  labels : List Label
  deriving DecidableEq

/-- Shows a diagnostic beside a source text. The label is left out if the token
lies outside the text. -/
def Diagnostic.excerpt (diagnostic : Diagnostic) (source : String) : Excerpt where
  file := diagnostic.file
  message := diagnostic.message
  code := "cobalt::parse_error"
  help := "[" ++ diagnostic.code ++ "]"
  labels := ((diagnostic.token.span source).map fun span => ⟨"here", span⟩).toList

/-- The excerpt in words: the code, the message, the places it points at and the help. -/
def Excerpt.lines (excerpt : Excerpt) : List String :=
  [excerpt.code, "  × " ++ excerpt.message] ++
    excerpt.labels.map (fun label =>
      "  " ++ label.text ++ ": " ++ excerpt.file ++ ", byte " ++ label.span.offset.repr ++
        ", length " ++ label.span.length.repr) ++
    ["  help: " ++ excerpt.help]

end CobolCheck
