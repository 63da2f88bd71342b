import CobolCheck.Command.Run
import CobolCheck.Proofs.Json.Value

/-!
# Token streams exchanged between runs

A run prints its tokens as JSON on several lines, and another one reads them. Whatever the tokens
are, as long as their places are those of a token stream, none of them is changed on the way: a
token is made of strings and natural numbers only, and values of these are read back from what is
written of them.
-/

namespace CobolCheck

namespace Token

/-- A token is written in strings and natural numbers. -/
theorem isExact_toJson (token : Token) : token.toJson.IsExact := by
  refine .object fun field member => ?_
  simp only [List.mem_cons, List.not_mem_nil, or_false] at member
  rcases member with rfl | rfl | rfl | rfl | rfl
  · exact .string token.value
  · exact .string token.category.name
  · exact .string token.context.name
  · exact .natural token.line
  · exact .natural token.column

theorem isExact_streamToJson (tokens : List Token) : (streamToJson tokens).IsExact := by
  refine .array fun element member => ?_
  obtain ⟨token, -, rfl⟩ := List.mem_map.mp member
  exact token.isExact_toJson

/-- Whether the place of a token is one that a token stream may give. -/
def IsPlaced (token : Token) : Prop :=
  token.line < positionBound ∧ token.column < positionBound

/-- A token stream is read back from its JSON value. -/
theorem streamOfJson?_streamToJson {tokens : List Token}
    (placed : ∀ token ∈ tokens, token.IsPlaced) :
    streamOfJson? (streamToJson tokens) = some tokens := by
  change (tokens.map toJson).mapM ofJson? = some tokens
  induction tokens with
  | nil => rfl
  | cons token tokens ih =>
      rw [List.forall_mem_cons] at placed
      rw [List.map_cons, List.mapM_cons, ofJson?_toJson placed.1.1 placed.1.2, ih placed.2]
      rfl

/-- The line break with which a printed text may end. -/
theorem areSpaces_of_mem_endings {ending : String} (member : ending ∈ ["", "\n"]) :
    Json.AreSpaces ending.toList := by
  simp only [List.mem_cons, List.not_mem_nil, or_false] at member
  rcases member with rfl | rfl
  · exact Json.areSpaces_nil
  · exact fun c inside => by rw [List.mem_singleton.mp inside]; rfl

/-- A token stream is read back from its text on several lines. -/
theorem streamOfJson?_parse?_pretty {tokens : List Token}
    (placed : ∀ token ∈ tokens, token.IsPlaced) {ending : String} (member : ending ∈ ["", "\n"]) :
    (Json.parse? ((streamToJson tokens).pretty ++ ending)).bind streamOfJson? = some tokens := by
  have read := Json.parse?_render (isExact_streamToJson tokens) (.indented 0)
    (areSpaces_of_mem_endings member)
  rw [String.ofList_append, String.ofList_toList] at read
  rw [Json.pretty, read, Option.bind_some, streamOfJson?_streamToJson placed]

end Token

namespace Command

/-- Token streams survive their text. A run that is asked for its tokens prints them first, and
from what it prints, with or without a line break at its end, the reader of token streams gets
the same tokens. -/
theorem streamOfJson?_parse?_emitted {request : Request} (asked : request.emitTokens = true)
    {tokens : List Token}
    (placed : ∀ token ∈ tokens, token.line < Token.positionBound ∧
      token.column < Token.positionBound)
    (table : SymbolTable) :
    ∃ text, (request.emitted tokens table).head? = some text ∧
      ∀ ending ∈ ["", "\n"],
        (Json.parse? (text ++ ending)).bind Token.streamOfJson? = some tokens := by
  refine ⟨(Token.streamToJson tokens).pretty, ?_, fun ending member =>
    Token.streamOfJson?_parse?_pretty placed member⟩
  rw [Request.emitted, if_pos asked]
  rfl

/-- Quotes, backslashes, control characters and letters outside ASCII are read back, and so are
the first and the last place of a token stream. -/
theorem streamOfJson?_parse?_emitted_escapes :
    let tokens : List Token :=
      [{ value := "'\"\\\u0000\u001F\u007F\n/'", category := .string, context := .statement,
         line := 0, column := 18446744073709551615 },
       { value := "É𝄞", category := .symbol, line := 1, column := 11 },
       { value := "EOF", category := .eof, context := .clause, line := 18446744073709551615,
         column := 0 }]
    let request : Request := { file := "stream.cob", emitTokens := true }
    request.emitTokens = true ∧
      (∀ token ∈ tokens, token.line < Token.positionBound ∧
        token.column < Token.positionBound) ∧
      ∃ text, (request.emitted tokens .empty).head? = some text ∧
        ∀ ending ∈ ["", "\n"],
          (Json.parse? (text ++ ending)).bind Token.streamOfJson? = some tokens := by
  intro tokens request
  have placed : ∀ token ∈ tokens, token.line < Token.positionBound ∧
      token.column < Token.positionBound := by
    decide +kernel
  exact ⟨rfl, placed, streamOfJson?_parse?_emitted rfl placed .empty⟩

/-- A run that is given a printed token stream checks these tokens. -/
theorem check_pretty {reader : Request} (reads : reader.tokens = true) {tokens : List Token}
    (placed : ∀ token ∈ tokens, token.IsPlaced) {ending : String} (member : ending ∈ ["", "\n"]) :
    reader.check ((Token.streamToJson tokens).pretty ++ ending) =
      .ok (checkTokens reader.file tokens,
        (checkTokens reader.file tokens).diagnostics.map Diagnostic.line) := by
  rw [Request.check, if_pos reads]
  simp only [Token.streamOfJson?_parse?_pretty placed member]

end Command

end CobolCheck
