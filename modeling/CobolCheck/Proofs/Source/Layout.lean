import CobolCheck.Proofs.Source.Lexed
import CobolCheck.Token.Span

/-!
# The layout of a source text

Tokens carry a line and a column, and the span of a token is found from these
alone. The tokenizer counts lines and columns up from the beginning of the text;
the span search counts line feeds and adds the column. The two are inverse to
each other on every text, so the spans of the tokens of a source text lie one
after the other in it, each holds the text of its token, and between them there
is nothing but blanks and comments.
-/

namespace CobolCheck

/-! ## Stretches of bytes -/

namespace Span

/-- The bytes of the span are those of `text`. -/
def Holds (span : Span) (source text : String) : Prop :=
  ∃ before after, source = before ++ text ++ after ∧
    span = ⟨before.utf8ByteSize, text.utf8ByteSize⟩

/-- The byte at an offset belongs to the span. -/
def Covers (span : Span) (byte : Nat) : Prop :=
  span.offset ≤ byte ∧ byte < span.offset + span.length

/-- The first span ends before the second one begins. -/
def Before (first second : Span) : Prop :=
  first.offset + first.length ≤ second.offset

end Span

/-- What the tokenizer passes over: a blank, or a comment that goes on to the end
of its line. -/
inductive Skipped : (text after : String) → Prop
  | blank {c : Char} (blank : Piece.isBlank c = true) (after : String) :
      Skipped (String.singleton c) after
  | comment {text after : String} (flat : '\n' ∉ text.toList)
      (ends : ∀ next ∈ after.toList.head?, next = '\n') : Skipped ("*>" ++ text) after

/-- The bytes of the span are a blank or a comment. -/
def Span.IsSkipped (span : Span) (source : String) : Prop :=
  ∃ before text after, source = before ++ text ++ after ∧
    span = ⟨before.utf8ByteSize, text.utf8ByteSize⟩ ∧ Skipped text after

/-! ## Positions and offsets -/

/-- Going forward from a position and looking for the same line again finds the
byte at which that line begins. -/
theorem Position.exists_offsetAfterLineFeeds (start : Position) (before rest : List Char) :
    ∃ base,
      Span.offsetAfterLineFeeds ((start.advance before).line - start.line) (before ++ rest) =
          some base ∧
        start.line ≤ (start.advance before).line ∧
        base + (start.advance before).column =
          (String.ofList before).utf8ByteSize +
            if (start.advance before).line = start.line then start.column else 1 := by
  induction before generalizing start with
  | nil => exact ⟨0, by simp [Span.offsetAfterLineFeeds]⟩
  | cons c before ih =>
      obtain ⟨base, found, later, sum_eq⟩ := ih (start.step c)
      rw [advance_cons]
      generalize (start.step c).advance before = final at *
      by_cases feed : c = '\n'
      · subst feed
        simp only [step, if_true] at found later sum_eq
        obtain ⟨lines, line_eq⟩ := Nat.exists_eq_add_of_le later
        have beyond : final.line - start.line = (final.line - (start.line + 1)) + 1 := by omega
        refine ⟨1 + base, ?_, by omega, ?_⟩
        · rw [beyond, List.cons_append, Span.offsetAfterLineFeeds, if_pos rfl, found]
          rfl
        · have size : ('\n').utf8Size = 1 := rfl
          rw [if_neg (by omega), String.ofList_cons, String.utf8ByteSize_append,
            String.utf8ByteSize_singleton, size]
          split at sum_eq <;> omega
      · simp only [step, if_neg feed] at found later sum_eq
        rw [String.ofList_cons, String.utf8ByteSize_append, String.utf8ByteSize_singleton]
        cases lines : final.line - start.line with
        | zero =>
            have same : final.line = start.line := by omega
            rw [lines, Span.offsetAfterLineFeeds, Option.some.injEq] at found
            rw [if_pos same] at sum_eq ⊢
            exact ⟨0, by simp [Span.offsetAfterLineFeeds], later, by omega⟩
        | succ count =>
            rw [lines] at found
            rw [if_neg (by omega)] at sum_eq ⊢
            refine ⟨c.utf8Size + base, ?_, later, by omega⟩
            rw [List.cons_append, Span.offsetAfterLineFeeds, if_neg feed, found]
            rfl

theorem Position.one_le_column_advance {start : Position} (begun : 1 ≤ start.column)
    (text : List Char) : 1 ≤ (start.advance text).column := by
  induction text generalizing start with
  | nil => exact begun
  | cons c text ih =>
      rw [advance_cons]
      apply ih
      unfold step
      split
      · exact Nat.le_refl 1
      · exact Nat.le_trans begun (Nat.le_add_right _ _)

/-- The line of a token at the position after `before` is found, and the column leads to the byte
after `before`. -/
theorem Token.lineOffset_of_advance {token : Token} {source before after : String}
    (split : source = before ++ after)
    (placed : Position.mk token.line token.column = Position.start.advance before.toList) :
    ∃ lineStart, Span.lineOffset token.line source = some lineStart ∧ 1 ≤ token.column ∧
      lineStart + token.column = before.utf8ByteSize + 1 := by
  obtain ⟨base, found, later, sum_eq⟩ :=
    Position.start.exists_offsetAfterLineFeeds before.toList after.toList
  have column := Position.start.one_le_column_advance (Nat.le_refl 1) before.toList
  have first : Position.start.column = 1 := rfl
  rw [← placed] at found sum_eq column
  rw [first, ite_self, String.ofList_toList] at sum_eq
  refine ⟨base, ?_, column, sum_eq⟩
  rw [Span.lineOffset, split, String.toList_append]
  exact found

/-- A token at the position after `before` begins at the byte after `before`. -/
theorem Token.span_of_advance {token : Token} {source before after : String}
    (split : source = before ++ after)
    (placed : Position.mk token.line token.column = Position.start.advance before.toList) :
    token.span source =
      some ⟨before.utf8ByteSize,
        if token.isEof then 0 else min token.value.utf8ByteSize after.utf8ByteSize⟩ := by
  obtain ⟨base, lineStart, column, sum_eq⟩ := Token.lineOffset_of_advance split placed
  have size : source.utf8ByteSize = before.utf8ByteSize + after.utf8ByteSize := by
    rw [split, String.utf8ByteSize_append]
  have offset : Span.columnOffset source.utf8ByteSize base token.column =
      before.utf8ByteSize := by
    rw [Span.columnOffset_of_le] <;> omega
  simp only [Token.span, lineStart, Option.bind_eq_bind, Option.bind_some, offset]
  rw [if_neg (by omega), size, Nat.add_sub_cancel_left]

/-! ## What is cut off -/

namespace Piece

theorem kind_digitRest (rest : List Char) :
    (digitRest rest).1 = .word ∨ (digitRest rest).1 = .numeric := by
  unfold digitRest
  simp only
  split
  · exact .inl rfl
  · exact .inr rfl

/-- A blank is one character. -/
theorem cut_eq_blank {first : Char} {rest more : List Char}
    (cut_eq : cut first rest = (.blank, more)) : isBlank first = true ∧ more = [] := by
  unfold cut at cut_eq
  split at cut_eq
  · next blank => exact ⟨blank, (congrArg Prod.snd cut_eq).symm⟩
  · have kind_eq := congrArg Prod.fst cut_eq
    have digits := kind_digitRest rest
    repeat' split at kind_eq
    all_goals simp_all

/-- A comment goes on to the end of its line. -/
theorem cut_eq_comment {first : Char} {rest more : List Char}
    (cut_eq : cut first rest = (.comment, more)) :
    first = '*' ∧ ∃ later, rest = '>' :: later ∧ more = '>' :: later.takeWhile (· ≠ '\n') := by
  unfold cut at cut_eq
  split at cut_eq
  · simp at cut_eq
  split at cut_eq
  · next opens =>
    obtain ⟨later, rest_eq⟩ := List.head?_eq_some_iff.mp opens.2
    refine ⟨opens.1, later, rest_eq, ?_⟩
    have more_eq : rest.takeWhile (· ≠ '\n') = more := congrArg Prod.snd cut_eq
    rw [← more_eq, rest_eq, List.takeWhile_cons_of_pos (by decide)]
  · have kind_eq := congrArg Prod.fst cut_eq
    have digits := kind_digitRest rest
    repeat' split at kind_eq
    all_goals simp_all

end Piece

/-! ## Letters in upper case -/

/-- A letter takes up as many bytes in upper case. -/
theorem utf8Size_toUpper (c : Char) : c.toUpper.utf8Size = c.utf8Size := by
  cases lower : c.isLower with
  | false => rw [toUpper_eq_self lower]
  | true =>
      have single {d : Char} (ascii : d.toNat ≤ 127) : d.utf8Size = 1 :=
        Char.utf8Size_eq_one_iff.mpr ascii
      obtain ⟨-, upto, upper⟩ := toNat_toUpper_of_isLower lower
      rw [single (by omega), single (by omega)]

theorem toUpper_toUpper (c : Char) : c.toUpper.toUpper = c.toUpper := by
  cases lower : c.isLower with
  | false => rw [toUpper_eq_self lower, toUpper_eq_self lower]
  | true =>
      obtain ⟨-, upto, upper⟩ := toNat_toUpper_of_isLower lower
      apply toUpper_eq_self
      rw [← Bool.not_eq_true, isLower_iff_toNat]
      omega

theorem utf8ByteSize_map_toUpper (text : List Char) :
    (String.ofList (text.map Char.toUpper)).utf8ByteSize = (String.ofList text).utf8ByteSize := by
  induction text with
  | nil => rfl
  | cons c text ih =>
      rw [List.map_cons, String.ofList_cons, String.ofList_cons, String.utf8ByteSize_append,
        String.utf8ByteSize_append, String.utf8ByteSize_singleton, String.utf8ByteSize_singleton,
        utf8Size_toUpper, ih]

/-! ## Tokens in their text -/

/-- The token is what the tokenizer reads from `text`: a literal or a symbol as it
is written, a word up to the case of its letters. -/
structure Token.Reads (token : Token) (text : String) : Prop where
  category_ne : token.category ≠ .eof
  text_ne : text ≠ ""
  upper_eq : text.toList.map Char.toUpper = token.value.toList.map Char.toUpper
  value_eq : token.category ∈ [Category.numeric, .string, .symbol] → text = token.value

/-- The case of its letters makes no difference to the size of a text. -/
theorem Token.Reads.utf8ByteSize_eq {token : Token} {text : String} (reads : token.Reads text) :
    text.utf8ByteSize = token.value.utf8ByteSize := by
  have size_eq := congrArg (fun letters => (String.ofList letters).utf8ByteSize) reads.upper_eq
  simpa only [utf8ByteSize_map_toUpper, String.ofList_toList] using size_eq

/-- The token stands at the position after `before`. -/
def Token.StandsAfter (token : Token) (before : String) : Prop :=
  Position.mk token.line token.column = Position.start.advance before.toList

/-- The tokens are those of the text that is left after `before`: each stands where
its text begins, and what lies between them is passed over. -/
inductive Laid (source : String) : (before : String) → List Token → Prop
  | finish {last : Token} (ends : last.category = .eof) (stands : last.StandsAfter source) :
      Laid source source [last]
  | skip {before text after : String} {tokens : List Token}
      (split : source = before ++ text ++ after) (skipped : Skipped text after)
      (rest : Laid source (before ++ text) tokens) : Laid source before tokens
  | read {before text after : String} {token : Token} {tokens : List Token}
      (split : source = before ++ text ++ after) (stands : token.StandsAfter before)
      (reads : token.Reads text) (rest : Laid source (before ++ text) tokens) :
      Laid source before (token :: tokens)

namespace Piece

/-- A comment is passed over up to the next line feed. -/
theorem skipped_comment (later : List Char) :
    Skipped (String.ofList ('*' :: '>' :: later.takeWhile (· ≠ '\n')))
      (String.ofList (later.dropWhile (· ≠ '\n'))) := by
  have text_eq : String.ofList ('*' :: '>' :: later.takeWhile (· ≠ '\n')) =
      "*>" ++ String.ofList (later.takeWhile (· ≠ '\n')) := by
    rw [← String.toList_inj]
    simp
  rw [text_eq]
  constructor
  · intro feed
    rw [String.toList_ofList] at feed
    have passes := List.all_eq_true.mp List.all_takeWhile _ feed
    simp at passes
  · intro next found
    rw [String.toList_ofList] at found
    have stops := List.head?_dropWhile_not (· ≠ '\n') later
    rw [found] at stops
    simpa using stops

/-- A piece that gives one token. -/
theorem laid_cons {source : String} {before after : List Char} {piece : Piece} {token : Token}
    {tokens : List Token}
    (split : source = String.ofList before ++ String.ofList piece.text ++ String.ofList after)
    (stands : Position.mk token.line token.column = Position.start.advance before)
    (category_ne : token.category ≠ .eof)
    (upper_eq : piece.text.map Char.toUpper = token.value.toList.map Char.toUpper)
    (value_eq : token.category ∈ [Category.numeric, .string, .symbol] →
      token.value = String.ofList piece.text)
    (rest : Laid source (String.ofList before ++ String.ofList piece.text) tokens) :
    Laid source (String.ofList before) (token :: tokens) := by
  have reads : token.Reads (String.ofList piece.text) := by
    constructor
    · exact category_ne
    · simp [text]
    · rw [String.toList_ofList, upper_eq]
    · exact fun literal => (value_eq literal).symm
  exact .read split (by rwa [Token.StandsAfter, String.toList_ofList]) reads rest

/-- A signed numeral that gives two tokens, its sign and its digits. -/
theorem laid_signed {source : String} {before after : List Char} {piece : Piece}
    {tokens : List Token}
    (split : source = String.ofList before ++ String.ofList piece.text ++ String.ofList after)
    (sign : piece.first = '+' ∨ piece.first = '-') (digits : piece.more ≠ [])
    (rest : Laid source (String.ofList before ++ String.ofList piece.text) tokens) :
    Laid source (String.ofList before)
      (⟨String.singleton piece.first, .symbol, .plain,
          (Position.start.advance before).line, (Position.start.advance before).column⟩ ::
        ⟨String.ofList piece.more, .numeric, .plain,
          (Position.start.advance before).line, (Position.start.advance before).column + 1⟩ ::
        tokens) := by
  have text_eq : String.ofList piece.text =
      String.singleton piece.first ++ String.ofList piece.more :=
    String.ofList_cons
  have step_eq : (Position.start.advance before).step piece.first =
      ⟨(Position.start.advance before).line, (Position.start.advance before).column + 1⟩ := by
    rcases sign with first | first <;> rw [first] <;> rfl
  rw [text_eq, ← String.append_assoc] at split rest
  have numeral := split
  rw [String.append_assoc] at split
  refine .read split ?_ ⟨by simp, by simp, by simp, fun _ => rfl⟩
    (.read numeral ?_ ⟨by simp, by simpa using digits, by simp, fun _ => rfl⟩ rest)
  · rw [Token.StandsAfter, String.toList_ofList]
  · simp [Token.StandsAfter, Position.advance_append, step_eq]

/-- The tokens of a piece are laid out over its text. -/
theorem laid_tokens {source : String} {before after : List Char} {piece : Piece}
    {tokens : List Token}
    (split : source = String.ofList before ++ String.ofList piece.text ++ String.ofList after)
    (cut_eq : cut piece.first (piece.more ++ after) = (piece.kind, piece.more))
    (rest : Laid source (String.ofList before ++ String.ofList piece.text) tokens)
    (afterOperand : Bool) :
    Laid source (String.ofList before)
      (piece.tokens (Position.start.advance before) afterOperand ++ tokens) := by
  have cuts : piece.IsCut := ⟨_, cut_eq⟩
  unfold Piece.tokens
  split
  · next blank =>
    rw [blank] at cut_eq
    obtain ⟨isBlank, more_eq⟩ := cut_eq_blank cut_eq
    refine .skip split ?_ rest
    rw [text, more_eq, ← String.singleton_eq_ofList]
    exact .blank isBlank _
  · next comment =>
    rw [comment] at cut_eq
    obtain ⟨first_eq, later, later_eq, more_eq⟩ := cut_eq_comment cut_eq
    have after_eq : after = later.dropWhile (· ≠ '\n') := by
      rw [more_eq, List.cons_append, List.cons.injEq] at later_eq
      rw [← List.append_cancel_left_eq (later.takeWhile (· ≠ '\n')), later_eq.2,
        List.takeWhile_append_dropWhile]
    refine .skip split ?_ rest
    rw [text, first_eq, more_eq, after_eq]
    exact skipped_comment later
  · next word =>
    have listed := Word.category_classify (String.ofList (piece.text.map Char.toUpper))
    dsimp only
    generalize Word.classify (String.ofList (piece.text.map Char.toUpper)) = role at listed ⊢
    obtain ⟨category, context⟩ := role
    refine laid_cons split rfl ?_ ?_ (fun literal => ?_) rest
    · rintro rfl
      simp at listed
    · rw [String.toList_ofList, List.map_map]
      exact List.map_congr_left fun c _ => (toUpper_toUpper c).symm
    · cases category <;> simp at listed literal
  · next numeric =>
    split
    · next signed =>
      rw [Bool.and_eq_true] at signed
      obtain ⟨digit, later, more_eq, isDigit⟩ :=
        cuts.exists_digit_of_isSigned numeric signed.2
      exact laid_signed split (by simpa [isSigned, isSign] using signed.2)
        (by simp [more_eq]) rest
    · exact laid_cons split rfl (by simp) (by simp [value]) (fun _ => rfl) rest
  · exact laid_cons split rfl (by simp) (by simp [value]) (fun _ => rfl) rest
  · exact laid_cons split rfl (by simp) (by simp [value]) (fun _ => rfl) rest

end Piece

/-- A property of the tokens of the text after `before` holds of all of them if it holds of the
end of the input and goes over from the tokens after a piece to those that begin with it. -/
theorem Source.tokensFrom_induction {source : String}
    {motive : (before : List Char) → (afterOperand : Bool) → List Token → Prop}
    (finish : ∀ before afterOperand, source = String.ofList before →
      motive before afterOperand [Token.endOfInput (Position.start.advance before).line
        (Position.start.advance before).column])
    (step : ∀ before after (piece : Piece) afterOperand tokens,
      source = String.ofList before ++ String.ofList piece.text ++ String.ofList after →
      Piece.cut piece.first (piece.more ++ after) = (piece.kind, piece.more) →
      motive (before ++ piece.text)
        (endsOperand afterOperand (piece.tokens (Position.start.advance before) afterOperand))
        tokens →
      motive before afterOperand
        (piece.tokens (Position.start.advance before) afterOperand ++ tokens))
    (before text : List Char) (afterOperand : Bool)
    (split : source = String.ofList before ++ String.ofList text) :
    motive before afterOperand
      (tokensFrom (Position.start.advance before) afterOperand (Piece.piecesAfter 0 text)) := by
  match text, split with
  | [], split => exact finish before afterOperand (by simpa using split)
  | first :: rest, split =>
      rw [Piece.piecesAfter_zero_cons, tokensFrom]
      generalize cut_eq : Piece.cut first rest = taken
      obtain ⟨kind, more⟩ := taken
      have more_eq : more ++ rest.drop more.length = rest := by
        have shape := Piece.cut_isPrefix first rest
        rw [cut_eq] at shape
        exact (List.prefix_iff_eq_append.mp shape)
      have later : source = String.ofList before ++
          String.ofList (Piece.text ⟨kind, first, more⟩) ++
            String.ofList (rest.drop more.length) := by
        rw [split, String.append_assoc, ← @String.ofList_append (Piece.text _), Piece.text,
          List.cons_append, more_eq]
      have cut_again : Piece.cut first (more ++ rest.drop more.length) = (kind, more) := by
        rw [more_eq, cut_eq]
      refine step before _ ⟨kind, first, more⟩ afterOperand _ later cut_again ?_
      rw [← Position.advance_append]
      apply tokensFrom_induction finish step
      rwa [String.ofList_append]
termination_by text.length
decreasing_by
  rw [List.length_drop, List.length_cons]
  omega

/-- The tokens of a source text are laid out over the whole text. -/
theorem Source.laid_tokenize (source : String) : Laid source "" (tokenize source) := by
  have whole : source = String.ofList [] ++ String.ofList source.toList := by simp
  refine tokensFrom_induction (motive := fun before _ => Laid source (String.ofList before))
    ?finish ?step [] source.toList false whole
  case finish =>
    rintro before - rfl
    exact .finish rfl (by rw [Token.StandsAfter, String.toList_ofList]; rfl)
  case step =>
    intro before after piece afterOperand tokens split cut_eq rest
    rw [String.ofList_append] at rest
    exact Piece.laid_tokens split cut_eq rest afterOperand

/-! ## Spans one after the other -/

theorem Token.Reads.length_pos {token : Token} {text : String} (reads : token.Reads text) :
    1 ≤ text.utf8ByteSize := by
  rw [Nat.one_le_iff_ne_zero, Ne, String.utf8ByteSize_eq_zero_iff]
  exact reads.text_ne

/-- The span of a token is where its text is written. -/
theorem Token.Reads.span_eq {token : Token} {source before text after : String}
    (reads : token.Reads text) (split : source = before ++ text ++ after)
    (stands : token.StandsAfter before) :
    token.span source = some ⟨before.utf8ByteSize, text.utf8ByteSize⟩ := by
  have inside : token.isEof = false := by simpa [Token.isEof] using reads.category_ne
  rw [String.append_assoc] at split
  rw [Token.span_of_advance split stands, inside, String.utf8ByteSize_append,
    ← reads.utf8ByteSize_eq, Nat.min_eq_left (Nat.le_add_right _ _)]
  rfl

theorem Token.span_of_eof {token : Token} {source : String} (ends : token.category = .eof)
    (stands : token.StandsAfter source) :
    token.span source = some ⟨source.utf8ByteSize, 0⟩ := by
  have whole : source = source ++ "" := String.append_empty.symm
  rw [Token.span_of_advance whole stands, token.isEof_eq_true_iff.mpr ends]
  rfl

/-- The token has a span in the source text, as long as its value, and is what the
tokenizer reads from the text that stands there. -/
def Token.Written (token : Token) (source : String) : Prop :=
  ∃ span text, token.span source = some span ∧ span.Holds source text ∧ token.Reads text ∧
    span.length = token.value.utf8ByteSize ∧ 1 ≤ span.length

theorem Token.Written.category_ne {token : Token} {source : String}
    (written : token.Written source) : token.category ≠ .eof := by
  obtain ⟨_, _, _, _, reads, _⟩ := written
  exact reads.category_ne

namespace Laid

variable {source before : String} {tokens : List Token}

/-- The last token alone marks the end of the input, and all others are written. -/
theorem exists_front (laid : Laid source before tokens) :
    ∃ front last, tokens = front ++ [last] ∧ last.category = .eof ∧
      last.span source = some ⟨source.utf8ByteSize, 0⟩ ∧
        ∀ token ∈ front, token.Written source := by
  induction laid with
  | finish ends stands => exact ⟨[], _, rfl, ends, Token.span_of_eof ends stands, by simp⟩
  | skip _ _ _ ih => exact ih
  | @read before text after token tokens split stands reads _ ih =>
      obtain ⟨front, last, tokens_eq, ends, last_span, written⟩ := ih
      refine ⟨token :: front, last, by rw [tokens_eq]; rfl, ends, last_span, ?_⟩
      rw [List.forall_mem_cons]
      refine ⟨?_, written⟩
      exact ⟨_, text, reads.span_eq split stands, ⟨before, after, split, rfl⟩, reads,
        reads.utf8ByteSize_eq, reads.length_pos⟩

/-- The spans come one after the other, and what they leave out is passed over. -/
theorem exists_spans (laid : Laid source before tokens) :
    ∃ spans : List Span,
      tokens.map (·.span source) = spans.map some ∧
      (∀ span ∈ spans, before.utf8ByteSize ≤ span.offset) ∧
      spans.Pairwise Span.Before ∧
      ∀ byte, before.utf8ByteSize ≤ byte → byte < source.utf8ByteSize →
        (∃ span ∈ spans, span.Covers byte) ∨
          ∃ gap : Span, gap.Covers byte ∧ gap.IsSkipped source ∧
            before.utf8ByteSize ≤ gap.offset ∧
              ∀ span ∈ spans, gap.Before span ∨ span.Before gap := by
  induction laid with
  | finish ends stands =>
      refine ⟨[⟨source.utf8ByteSize, 0⟩], ?_, by simp, by simp, by omega⟩
      simp [Token.span_of_eof ends stands]
  | @skip before text after tokens split skipped _ ih =>
      rw [String.utf8ByteSize_append] at ih
      obtain ⟨spans, spans_eq, later, ordered, covered⟩ := ih
      refine ⟨spans, spans_eq, fun span member => ?_, ordered, fun byte reached inside => ?_⟩
      · have := later span member
        omega
      by_cases passed : byte < before.utf8ByteSize + text.utf8ByteSize
      · right
        refine ⟨_, ⟨reached, passed⟩, ⟨before, text, after, split, rfl, skipped⟩, Nat.le_refl _,
          fun span member => .inl (later span member)⟩
      · rcases covered byte (by omega) inside with found | ⟨gap, covers, isSkipped, from_, apart⟩
        · exact .inl found
        · exact .inr ⟨gap, covers, isSkipped, by omega, apart⟩
  | @read before text after token tokens split stands reads _ ih =>
      rw [String.utf8ByteSize_append] at ih
      obtain ⟨spans, spans_eq, later, ordered, covered⟩ := ih
      refine ⟨⟨before.utf8ByteSize, text.utf8ByteSize⟩ :: spans, ?_, ?_, ?_,
        fun byte reached inside => ?_⟩
      · rw [List.map_cons, List.map_cons, reads.span_eq split stands, spans_eq]
      · rw [List.forall_mem_cons]
        refine ⟨Nat.le_refl _, fun span member => ?_⟩
        have := later span member
        omega
      · exact .cons later ordered
      by_cases own : byte < before.utf8ByteSize + text.utf8ByteSize
      · exact .inl ⟨_, List.mem_cons_self, reached, own⟩
      · rcases covered byte (by omega) inside with
          ⟨span, member, covers⟩ | ⟨gap, covers, isSkipped, from_, apart⟩
        · exact .inl ⟨span, List.mem_cons_of_mem _ member, covers⟩
        · refine .inr ⟨gap, covers, isSkipped, by omega, ?_⟩
          rw [List.forall_mem_cons]
          exact ⟨.inr from_, apart⟩

end Laid

/-- Tokenization loses nothing and its positions are exact. The last token alone is
an end of input, with an empty span at the end of the text. Every other token has a
span of its length that holds what it is read from. The spans of all tokens come
one after the other, and every byte outside them is in a blank or a comment that
lies between tokens. -/
theorem Source.tokenize_layout (source : String) :
    ∃ (front : List Token) (last : Token) (spans : List Span),
      tokenize source = front ++ [last] ∧ last.category = .eof ∧
      last.span source = some ⟨source.utf8ByteSize, 0⟩ ∧
      (∀ token ∈ front, token.category ≠ .eof ∧ token.Written source) ∧
      (tokenize source).map (·.span source) = spans.map some ∧
      spans.Pairwise Span.Before ∧
      ∀ byte < source.utf8ByteSize,
        (∃ span ∈ spans, span.Covers byte) ∨
          ∃ gap : Span, gap.Covers byte ∧ gap.IsSkipped source ∧
            ∀ span ∈ spans, gap.Before span ∨ span.Before gap := by
  have laid := laid_tokenize source
  obtain ⟨front, last, tokens_eq, ends, last_span, written⟩ := laid.exists_front
  obtain ⟨spans, spans_eq, -, ordered, covered⟩ := laid.exists_spans
  refine ⟨front, last, spans, tokens_eq, ends, last_span, fun token member => ?_, spans_eq,
    ordered, fun byte inside => ?_⟩
  · exact ⟨(written token member).category_ne, written token member⟩
  · rcases covered byte (Nat.zero_le _) inside with found | ⟨gap, covers, isSkipped, _, apart⟩
    · exact .inl found
    · exact .inr ⟨gap, covers, isSkipped, apart⟩

end CobolCheck
