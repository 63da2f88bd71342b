import CobolCheck.Check
import CobolCheck.Command.Arguments
import CobolCheck.Json.Interchange

/-!
# Running the command

What a request prints, given the bytes of the file it names. Diagnostics of a
source text are shown as excerpts, those of a token stream on a line each, since
a token stream comes without the text it was read from.
-/

namespace CobolCheck.Command

/-- Why a run fails. -/
inductive RunError where
  /-- There is no such file. -/
  | noFile
  /-- The file is no text. -/
  | noText
  /-- The file is no token stream. -/
  | noTokens
  /-- The program in the file has errors. -/
  | rejected (failure : Failure)
  deriving DecidableEq

/-- The message of an error. -/
def RunError.message : RunError → String
  | noFile => "Input file either does not exist, or is not a file."
  | noText => "Failed to load input file from disk: stream did not contain valid UTF-8"
  | noTokens => "Failed to parse input token stream"
  | rejected failure => failure.message

/-- What a run prints, and why it fails, if it does. -/
structure Printed where
  /-- The lines of the standard output. -/
  output : List String
  /-- The lines of the error output. -/
  log : List String
  error : Option RunError

/-- The outcome of a request and its diagnostics in words, from the text of its file. -/
def Request.check (request : Request) (text : String) :
    Except RunError (Outcome × List String) :=
  if request.tokens then
    match (Json.parse? text).bind Token.streamOfJson? with
    | none => .error .noTokens
    | some tokens =>
        let outcome := checkTokens request.file tokens
        .ok (outcome, outcome.diagnostics.map Diagnostic.line)
  else
    let outcome := checkSource request.file text
    .ok (outcome, outcome.diagnostics.flatMap fun diagnostic => (diagnostic.excerpt text).lines)

/-- What a request prints if its program has no errors. -/
def Request.emitted (request : Request) (tokens : List Token) (table : SymbolTable) :
    List String :=
  (if request.emitTokens then [(Token.streamToJson tokens).pretty] else []) ++
    (if request.emitSymbols then [table.toJson.pretty] else [])

/-- The last line of a run that succeeds. -/
def Request.success (request : Request) (table : SymbolTable) : String :=
  "success: " ++ request.file ++ " (" ++ table.size.repr ++ " data items declared)"

/-- Runs a request on the bytes of its file, if there is such a file. -/
def Request.run (request : Request) (file : Option ByteArray) : Printed :=
  match file with
  | none => ⟨[], [], some .noFile⟩
  | some bytes =>
      match String.fromUTF8? bytes with
      | none => ⟨[], [], some .noText⟩
      | some text =>
          match request.check text with
          | .error error => ⟨[], [], some error⟩
          | .ok (outcome, log) =>
              match outcome.result with
              | .error failure => ⟨[], log, some (.rejected failure)⟩
              | .ok tokens =>
                  ⟨request.emitted tokens outcome.table, log ++ [request.success outcome.table],
                    none⟩

/-- A run that fails prints nothing on the standard output. -/
theorem Request.output_eq_nil_of_error {request : Request} {file : Option ByteArray}
    {error : RunError} (failed : (request.run file).error = some error) :
    (request.run file).output = [] := by
  unfold Request.run at failed ⊢
  repeat' split at failed
  all_goals simp_all

end CobolCheck.Command
