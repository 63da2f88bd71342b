import CobolCheck.Proofs.Expression.Comparison
import CobolCheck.Statement.Sequence

/-!
# The grammar of statements

The words of the statements that choose, compute and change records, with their
conditional phrases, and of some simple statements. Statements are nested in the
branches of IF statements and in conditional phrases, and the grammar counts how
deep. Every statement that may have a conditional phrase is closed by its END marker.
-/

namespace CobolCheck.Grammar

/-! ## Parts of statements -/

/-- Whether words are left out or of a kind. -/
def Optional (kind : List String → Prop) (words : List String) : Prop :=
  words = [] ∨ kind words

/-- One or more operands of some categories. -/
structure Operands (categories : List Category) (words : List String) : Prop where
  nonempty : words ≠ []
  operands : ∀ word ∈ words, IsOperand categories word

/-- A word and an operand. -/
def Pair (word : String) (categories : List Category) (words : List String) : Prop :=
  ∃ operand, IsOperand categories operand ∧ words = [word, operand]

/-- `w ...` or `w value GIVING ...`: what follows the operands of a statement. -/
inductive Target (word : String) : List String → Prop
  | direct {targets : List String} (names : Operands [.identifier] targets) :
      Target word (word :: targets)
  | giving {value : String} {targets : List String}
      (operand : IsOperand [.identifier, .numeric] value)
      (names : Operands [.identifier] targets) :
      Target word (word :: value :: "GIVING" :: targets)

/-- `RETRY (FOREVER | [FOR] arithmetic SECONDS | arithmetic TIMES)` -/
inductive Retry : List String → Prop
  | forever : Retry ["RETRY", "FOREVER"]
  | seconds {noise time : List String} (optional : noise ∈ [[], ["FOR"]])
      (expression : Arithmetic true time) : Retry ("RETRY" :: noise ++ time ++ ["SECONDS"])
  | times {count : List String} (expression : Arithmetic true count) :
      Retry ("RETRY" :: count ++ ["TIMES"])

/-- `[WITH] (LOCK | NO LOCK)` -/
def locks : List (List String) :=
  [["LOCK"], ["NO", "LOCK"], ["WITH", "LOCK"], ["WITH", "NO", "LOCK"]]

/-- The words that introduce the positive form of a conditional phrase. -/
def positives : Phrase → List (List String)
  | .sizeError => [["SIZE", "ERROR"], ["ON", "SIZE", "ERROR"]]
  | .invalidKey => [["INVALID"], ["INVALID", "KEY"]]
  | .onException => [["EXCEPTION"], ["ON", "EXCEPTION"]]
  | .atEnd => [["END"], ["AT", "END"]]
  | .raisingStatus => []

/-- The words that introduce a conditional phrase. -/
def introductions (phrase : Phrase) : Polarity → List (List String)
  | .positive => positives phrase
  | .negative => (positives phrase).map ("NOT" :: ·)

/-! ## Statements -/

/-- A statement without nested statements. -/
inductive Simple : List String → Prop
  | display {values : List String} (operands : Operands [.identifier, .numeric, .string] values) :
      Simple ("DISPLAY" :: values)
  | move {source : String} {targets : List String} (value : IsOperand operandCategories source)
      (names : Operands [.identifier] targets) : Simple ("MOVE" :: source :: "TO" :: targets)
  | continuing : Simple ["CONTINUE"]
  | call {name : String} (operand : IsOperand [.string, .identifier] name) :
      Simple ["CALL", name]
  | goTo {name : String} (named : IsName name) : Simple ["GO", "TO", name]
  | stop : Simple ["STOP", "RUN"]

/-- A statement up to its conditional phrases, of which pair these are, and the
END marker that closes it. -/
inductive Head : Phrase → String → List String → Prop
  | compute {targets value : List String} (names : Operands [.identifier] targets)
      (expression : Arithmetic true value) :
      Head .sizeError "END-COMPUTE" ("COMPUTE" :: targets ++ "=" :: value)
  | addTo {values target : List String} (operands : Operands [.identifier, .numeric] values)
      (place : Target "TO" target) : Head .sizeError "END-ADD" ("ADD" :: values ++ target)
  | addGiving {values targets : List String} (operands : Operands [.identifier, .numeric] values)
      (names : Operands [.identifier] targets) :
      Head .sizeError "END-ADD" ("ADD" :: values ++ "GIVING" :: targets)
  | subtract {values target : List String} (operands : Operands [.identifier, .numeric] values)
      (minuend : Target "FROM" target) :
      Head .sizeError "END-SUBTRACT" ("SUBTRACT" :: values ++ target)
  | multiply {value : String} {target : List String}
      (operand : IsOperand [.identifier, .numeric] value) (factor : Target "BY" target) :
      Head .sizeError "END-MULTIPLY" ("MULTIPLY" :: value :: target)
  | divideInto {value : String} {targets : List String}
      (operand : IsOperand [.identifier, .numeric] value) (names : Operands [.identifier] targets) :
      Head .sizeError "END-DIVIDE" ("DIVIDE" :: value :: "INTO" :: targets)
  | divideGiving {value word other : String} {targets : List String}
      (operand : IsOperand [.identifier, .numeric] value) (listed : word ∈ ["BY", "INTO"])
      (second : IsOperand [.identifier, .numeric] other)
      (names : Operands [.identifier] targets) :
      Head .sizeError "END-DIVIDE" ("DIVIDE" :: value :: word :: other :: "GIVING" :: targets)
  | divideRemainder {value word other quotient remainder : String}
      (operand : IsOperand [.identifier, .numeric] value) (listed : word ∈ ["BY", "INTO"])
      (second : IsOperand [.identifier, .numeric] other) (first : IsName quotient)
      (last : IsName remainder) :
      Head .sizeError "END-DIVIDE"
        ["DIVIDE", value, word, other, "GIVING", quotient, "REMAINDER", remainder]
  | deleteFile {override files retry : List String} (optional : override ∈ [[], ["OVERRIDE"]])
      (names : Operands [.identifier] files) (again : Optional Retry retry) :
      Head .onException "END-DELETE" ("DELETE" :: "FILE" :: override ++ files ++ retry)
  | deleteRecord {name : String} {record retry : List String} (named : IsName name)
      (optional : record ∈ [[], ["RECORD"]]) (again : Optional Retry retry) :
      Head .invalidKey "END-DELETE" ("DELETE" :: name :: record ++ retry)
  | rewriteFile {name value : String} {retry lock : List String} (named : IsName name)
      (operand : IsOperand [.identifier, .numeric, .string] value)
      (again : Optional Retry retry) (locked : Optional (· ∈ locks) lock) :
      Head .invalidKey "END-REWRITE"
        ("REWRITE" :: "FILE" :: name :: "RECORD" :: "FROM" :: value :: retry ++ lock)
  | rewriteRecord {name : String} {record source retry lock : List String} (named : IsName name)
      (optional : record ∈ [[], ["RECORD"]])
      (value : Optional (Pair "FROM" [.identifier, .numeric, .string]) source)
      (again : Optional Retry retry) (locked : Optional (· ∈ locks) lock) :
      Head .invalidKey "END-REWRITE" ("REWRITE" :: name :: record ++ source ++ retry ++ lock)
  | returnRecord {name : String} {record target retry : List String} (named : IsName name)
      (optional : record ∈ [[], ["RECORD"]])
      (item : Optional (Pair "INTO" [.identifier]) target)
      (again : Optional Retry retry) :
      Head .atEnd "END-RETURN" ("RETURN" :: name :: record ++ target ++ retry)

/-- The kinds of parts in which statements are nested. -/
inductive Part where
  /-- One statement. -/
  | statement
  /-- A nested sequence of statements. -/
  | sequence
  /-- The conditional phrases of a pair after those already seen. -/
  | phrases (phrase : Phrase) (seen : SeenForms)

/-- The words of a part, with sequences nested in it down to a depth. -/
inductive Nested : (depth : Nat) → Part → List String → Prop
  | simple {depth : Nat} {words : List String} (statement : Simple words) :
      Nested depth .statement words
  | conditional {depth : Nat} {phrase : Phrase} {marker : String} {head phrases : List String}
      (begins : Head phrase marker head) (conditions : Nested depth (.phrases phrase {}) phrases) :
      Nested depth .statement (head ++ phrases ++ [marker])
  | choice {depth : Nat} {condition noise yes : List String} (test : Condition condition)
      (optional : noise ∈ [[], ["THEN"]]) (first : Nested depth .sequence yes) :
      Nested depth .statement ("IF" :: condition ++ noise ++ yes ++ ["END-IF"])
  | alternative {depth : Nat} {condition noise yes no : List String} (test : Condition condition)
      (optional : noise ∈ [[], ["THEN"]]) (first : Nested depth .sequence yes)
      (second : Nested depth .sequence no) :
      Nested depth .statement ("IF" :: condition ++ noise ++ yes ++ "ELSE" :: no ++ ["END-IF"])
  | nil {depth : Nat} : Nested (depth + 1) .sequence []
  | cons {depth : Nat} {first more : List String} (statement : Nested depth .statement first)
      (others : Nested (depth + 1) .sequence more) :
      Nested (depth + 1) .sequence (first ++ more)
  | finished {depth : Nat} {phrase : Phrase} {seen : SeenForms} :
      Nested depth (.phrases phrase seen) []
  | phrase {depth : Nat} {phrase : Phrase} {seen : SeenForms} {polarity : Polarity}
      {introduction body more : List String} (new : seen.has polarity = false)
      (introduces : introduction ∈ introductions phrase polarity)
      (sequence : Nested depth .sequence body)
      (others : Nested depth (.phrases phrase (seen.insert polarity)) more) :
      Nested depth (.phrases phrase seen) (introduction ++ body ++ more)

/-! ## Sentences -/

/-- One or more statements and a period. -/
inductive Sentence (depth : Nat) : List String → Prop
  | last {words : List String} (statement : Nested depth .statement words) :
      Sentence depth (words ++ ["."])
  | cons {first more : List String} (statement : Nested depth .statement first)
      (others : Sentence depth more) : Sentence depth (first ++ more)

/-- Any number of sentences. -/
inductive Sentences (depth : Nat) : List String → Prop
  | nil : Sentences depth []
  | cons {first more : List String} (sentence : Sentence depth first)
      (others : Sentences depth more) : Sentences depth (first ++ more)

/-- The header of a paragraph or of a section. -/
inductive Header : List String → Prop
  | ofParagraph {name : String} (named : IsName name) : Header [name, "."]
  | ofSection {name : String} (named : IsName name) : Header [name, "SECTION", "."]

/-- Sentences with the headers of paragraphs and sections between them. -/
inductive Body (depth : Nat) : List String → Prop
  | sentences {words : List String} (sentences : Sentences depth words) : Body depth words
  | header {words header more : List String} (sentences : Sentences depth words)
      (begins : Header header) (others : Body depth more) :
      Body depth (words ++ header ++ more)

end CobolCheck.Grammar
