import Mathlib.Data.List.Forall2
import Mathlib.Data.Option.Defs
import CobolCheck.Expression.Condition
import CobolCheck.Proofs.Analysis.Closed

/-!
# Two runs side by side

What an analysis does depends on little of its state: on the tokens just ahead
of the cursor and on the token before it, and of these on nothing but their
texts and their roles. Where they were written, what was accepted and what was
reported is carried along and never looked at.

`Abreast` says this of a relation between the states of two runs. Related
states show the same tokens where an analysis looks, up to a relation between
tokens, and moves that two runs make side by side keep the states related. Two
runs of an analysis from related states then stay side by side to their ends,
which is `Tracks`. Where the relation says nothing of the depth to which
statements are nested it is `Parallel`.

Something may come up in the first run of which nothing is to be said any more:
from then on its state is not `live`.
-/

namespace CobolCheck

open Analysis

/-! ## Later states -/

/-- Whether a state can come after another one in a run: no token comes back,
and no report is withdrawn. -/
structure State.Later (before after : State) : Prop where
  shrinks : remaining after ≤ remaining before
  reports : before.reports <:+ after.reports

namespace State

/-- Whether nothing has been reported. -/
def Quiet (state : State) : Prop :=
  state.reports = []

theorem Later.quiet {before after : State} (later : before.Later after) (quiet : after.Quiet) :
    before.Quiet := by
  have kept := later.reports
  rw [quiet] at kept
  exact List.suffix_nil.mp kept

theorem Later.refl (state : State) : state.Later state :=
  ⟨Nat.le_refl _, List.suffix_rfl⟩

theorem Later.trans {first second third : State} (next : first.Later second)
    (further : second.Later third) : first.Later third :=
  ⟨Nat.le_trans further.shrinks next.shrinks, next.reports.trans further.reports⟩

theorem later_skip (state : State) : state.Later state.skip where
  shrinks := by
    rw [remaining, ahead_skip, List.length_tail]
    exact Nat.sub_le _ _
  reports := (still_skip state).reports

theorem later_emit_skip (token : Token) (state : State) :
    state.Later (state.emit token).skip :=
  ⟨(later_skip (state.emit token)).shrinks, (later_skip (state.emit token)).reports⟩

theorem later_report (token : Token) (cause : Cause) (state : State) :
    state.Later (state.report token cause) :=
  ⟨Nat.le_refl _, List.suffix_cons _ _⟩

end State

/-! ## Steps -/

namespace State

/-- Accepts the token at the cursor, and the token after it under another category. -/
def designate (category : Category) (state : State) : State :=
  let next := (state.emit state.current).skip
  (next.emit (next.current.retag category)).skip

/-- A step of an analysis, whatever the cursor is at. Unlike a move it is no
question of what an analysis accepts, only of how it can change a state. -/
inductive Step : State → State → Prop
  | skip (state : State) : Step state state.skip
  | accept (state : State) : Step state (state.emit state.current).skip
  | designate (category : Category) (state : State) : Step state (state.designate category)
  | report (token : Token) (cause : Cause) (state : State) :
      Step state (state.report token cause)
  | note (state : State) (unit : SourceUnit) (table : SymbolTable) (nesting deepest : Nat) :
      Step state { state with unit, table, nesting, deepest }

theorem Step.later {before after : State} (step : before.Step after) : before.Later after := by
  cases step with
  | skip => exact later_skip _
  | accept => exact later_emit_skip _ _
  | designate => exact (later_emit_skip _ _).trans (later_emit_skip _ _)
  | report => exact later_report _ _ _
  | note => exact ⟨Nat.le_refl _, List.suffix_rfl⟩

end State

/-! ## Parallel states -/

/-- Whether a test can only hold if the cursor is not at a period. -/
def Test.excludesPeriod : Test → Bool
  | word 0 words => !words.contains "."
  | _ => false

/-- Whether a test looks at no more than the token at the cursor and the texts of
`reach` tokens after it, or of `further` ones behind a test that excludes a period. -/
def Test.looks (further : Nat) : Test → Nat → Bool
  | word offset _, reach => offset.ble reach
  | category offset _, _ => offset.ble 0
  | not test, reach => test.looks further reach
  | and first second, reach =>
      first.looks further reach &&
        second.looks further (bif first.excludesPeriod then further else reach)
  | or first second, reach => first.looks further reach && second.looks further reach
  | _, _ => true

/-- How far a test may look if the cursor is not at a period: one token further,
unless it must not look beyond the cursor at all. -/
def furtherReach : Nat → Nat
  | 0 => 0
  | reach + 1 => reach + 2

/-- Whether a test looks no further than a number of tokens. -/
def Test.within (test : Test) (reach : Nat) : Bool :=
  test.looks (furtherReach reach) reach

/-- Whether there are states of which nothing is to be said. -/
def Mortal (live : State → Prop) : Prop :=
  ∃ state, ¬ live state

/-- A relation between the states of two runs whose moves keep it. Around the
cursor related states have tokens that are the `same` to an analysis, and as many
texts in common as `reach` says. -/
structure Abreast (reach : Nat) (same : Token → Token → Prop) (live : State → Prop)
    (ρ : State → State → Prop) : Prop where
  alike {token other : Token} : same token other →
    token.value = other.value ∧ token.category = other.category ∧ token.context = other.context
  recast {token other : Token} (value : String) (category : Category) (context : Context) :
    same token other →
      same { token with value, category, context } { other with value, category, context }
  refl (mortal : Mortal live) (token : Token) : same token token
  alive {before after : State} : before.Step after → live after → live before
  cursor {first second : State} : ρ first second → same first.current second.current
  text {first second : State} {offset : Nat} : ρ first second → offset ≤ reach →
    (first.lookahead offset).value = (second.lookahead offset).value
  beyond {first second : State} {offset : Nat} : ρ first second →
    first.current.value ≠ "." → offset ≤ furtherReach reach →
      (first.lookahead offset).value = (second.lookahead offset).value
  reading {first second : State} (afterOperand : Bool) : ρ first second → 1 ≤ reach →
    (reading afterOperand first).1 = (reading afterOperand second).1
  moved {first second third fourth : State} : ρ first second → ρ third fourth →
    (remaining third < remaining first ↔ remaining fourth < remaining second)
  skip {first second : State} : ρ first second → 1 ≤ reach → live first.skip →
    ρ first.skip second.skip
  accepted {first second : State} : ρ first second → live (first.emit first.current).skip →
    ρ (first.emit first.current).skip (second.emit second.current).skip
  designate {first second : State} (category : Category) : ρ first second →
    live (first.designate category) →
      (first.lookahead 1).value = (second.lookahead 1).value ∧
        ρ (first.designate category) (second.designate category)
  report {first second : State} {token other : Token} (cause : Cause) : ρ first second →
    same token other → live (first.report token cause) →
      ρ (first.report token cause) (second.report other cause)
  reportedBefore {first second : State} (cause : Cause) : ρ first second →
    live (first.report first.previous cause) →
      ρ (first.report first.previous cause) (second.report second.previous cause)
  rejected {first second : State} (cause : Cause) : ρ first second →
    live (first.report first.current cause).skip →
      ρ (first.report first.current cause).skip (second.report second.current cause).skip
  rejectedBefore {first second : State} (cause : Cause) : ρ first second →
    live (first.report first.previous cause).skip →
      ρ (first.report first.previous cause).skip (second.report second.previous cause).skip

/-- A relation between the states of two runs whose moves keep it, wherever statements are
nested: what the states say about the depth of nesting does not matter to it. -/
structure Parallel (reach : Nat) (same : Token → Token → Prop) (live : State → Prop)
    (ρ : State → State → Prop) : Prop extends Abreast reach same live ρ where
  nest {first second : State} (nesting deepest : Nat → Nat → Nat) : ρ first second →
    ρ { first with
        nesting := nesting first.nesting first.deepest
        deepest := deepest first.nesting first.deepest }
      { second with
        nesting := nesting second.nesting second.deepest
        deepest := deepest second.nesting second.deepest }

/-- Whether two analyses that begin in related states end in related states and
with related results, if the first one ends in a live state. It then began in one. -/
structure Tracks {α : Type} (live : State → Prop) (ρ : State → State → Prop)
    (related : α → α → Prop) (first second : Analysis α) : Prop where
  alive {state : State} : live (first state).2 → live state
  tracks {state other : State} : ρ state other → live (first state).2 →
    related (first state).1 (second other).1 ∧ ρ (first state).2 (second other).2

namespace Analysis

variable {live : State → Prop} {ρ : State → State → Prop} {α : Type}
  {related : α → α → Prop}

/-! ## Looking, changing and giving back -/

theorem tracks_view {view other : State → α}
    (kept : ∀ {first second}, ρ first second → related (view first) (other second)) :
    Tracks live ρ related (fun state => (view state, state))
      (fun state => (other state, state)) where
  alive := id
  tracks side _ := ⟨kept side, side⟩

theorem tracks_modify {change other : State → State}
    (alive : ∀ state, live (change state) → live state)
    (kept : ∀ {first second}, ρ first second → live (change first) →
      ρ (change first) (other second)) :
    Tracks live ρ Eq (modify change : Analysis Unit) (modify other) where
  alive := alive _
  tracks side alive := ⟨rfl, kept side alive⟩

theorem tracks_pure {value other : α} (given : related value other) :
    Tracks live ρ related (pure value) (pure other) :=
  tracks_view fun _ => given

/-- A result that both runs give. -/
theorem tracks_same (value : α) : Tracks live ρ Eq (pure value) (pure value) :=
  tracks_pure rfl

theorem tracks_weaken {weaker : α → α → Prop} {first second : Analysis α}
    (tracked : Tracks live ρ related first second)
    (weaken : ∀ {value other}, related value other → weaker value other) :
    Tracks live ρ weaker first second where
  alive := tracked.alive
  tracks side alive :=
    have ⟨results, states⟩ := tracked.tracks side alive
    ⟨weaken results, states⟩

/-- A round in which both runs have the same values. -/
theorem tracks_round {first second : Analysis (Option α)}
    (tracked : Tracks live ρ Eq first second) :
    Tracks live ρ (Option.Rel Eq) first second := by
  refine tracks_weaken tracked ?_
  rintro (_ | next) _ rfl
  · exact .none
  · exact .some rfl

theorem tracks_discard {first second : Analysis α} (tracked : Tracks live ρ related first second) :
    Tracks live ρ Eq (discard first : Analysis Unit) (discard second) where
  alive := tracked.alive
  tracks side alive := ⟨rfl, (tracked.tracks side alive).2⟩

theorem tracks_ite {yes no yes' no' : Analysis α} (held : Prop) [Decidable held]
    (first : Tracks live ρ related yes yes') (second : Tracks live ρ related no no') :
    Tracks live ρ related (if held then yes else no) (if held then yes' else no') := by
  split
  · exact first
  · exact second

/-! ## Sequence -/

variable {β : Type} {outcome : β → β → Prop}

/-- Two analyses, one after the other. The second may rely on the results of the first. -/
theorem tracks_bind {first second : Analysis α} {next other : α → Analysis β}
    (refl : Mortal live → ∀ value, related value value)
    (begin : Tracks live ρ related first second)
    (rest : ∀ {value result}, related value result →
      Tracks live ρ outcome (next value) (other result)) :
    Tracks live ρ outcome (first >>= next) (second >>= other) := by
  have between {state : State} (alive : live ((first >>= next) state).2) :
      live (first state).2 := by
    refine Classical.byContradiction fun dead => dead ?_
    exact (rest (refl ⟨_, dead⟩ _)).alive alive
  constructor
  · intro state alive
    exact begin.alive (between alive)
  · intro state partner side alive
    obtain ⟨results, states⟩ := begin.tracks side (between alive)
    exact (rest results).tracks states alive

/-- Two analyses, one after the other, where both runs of the first give the same result. -/
theorem tracks_then {first second : Analysis α} {next other : α → Analysis β}
    (begin : Tracks live ρ Eq first second)
    (rest : ∀ value, Tracks live ρ outcome (next value) (other value)) :
    Tracks live ρ outcome (first >>= next) (second >>= other) := by
  refine tracks_bind (fun _ _ => rfl) begin ?_
  rintro value _ rfl
  exact rest value

theorem tracks_forM {each other : α → Analysis Unit}
    (tracked : ∀ value, Tracks live ρ Eq (each value) (other value)) (values : List α) :
    Tracks live ρ Eq (values.forM each) (values.forM other) := by
  induction values with
  | nil => exact tracks_same ()
  | cons value rest ih => exact tracks_then (tracked value) fun _ => ih

theorem alive_loopFor {body : α → Analysis (Option α)}
    (round : ∀ value state, live (body value state).2 → live state) (rounds : Nat) (value : α)
    (state : State) (alive : live (loopFor body rounds value state).2) : live state := by
  induction rounds generalizing value state with
  | zero => exact alive
  | succ rounds ih =>
      apply round value state
      rw [loopFor] at alive
      rcases ran : body value state with ⟨_ | next, after⟩
      all_goals rw [ran] at alive
      · exact alive
      · dsimp only at alive
        split at alive
        · exact ih next after alive
        · exact alive

end Analysis

/-! ## Loops -/

/-- Whether of two runs that a relation holds of one moves the cursor where the other one does. -/
def InStep (ρ : State → State → Prop) : Prop :=
  ∀ ⦃first second third fourth : State⦄, ρ first second → ρ third fourth →
    (remaining third < remaining first ↔ remaining fourth < remaining second)

namespace InStep

variable {live : State → Prop} {ρ : State → State → Prop} {α : Type}
  {related : α → α → Prop} {body other : α → Analysis (Option α)}

/-- Two runs of a loop go through the same rounds. -/
theorem tracks_loopFor (inStep : InStep ρ) (refl : Mortal live → ∀ value, related value value)
    (round : ∀ {value result}, related value result →
      Tracks live ρ (Option.Rel related) (body value) (other result))
    (rounds : Nat) {value result : α} (given : related value result) :
    Tracks live ρ related (loopFor body rounds value) (loopFor other rounds result) := by
  have begun (value : α) (state : State) (alive : live (body value state).2) : live state :=
    Classical.byContradiction fun dead => dead ((round (refl ⟨state, dead⟩ value)).alive alive)
  constructor
  · intro state alive
    exact alive_loopFor begun rounds value state alive
  · intro state partner side alive
    induction rounds generalizing value result state partner with
    | zero => exact ⟨given, side⟩
    | succ rounds ih =>
        have step := (round given).tracks side
        rw [loopFor] at alive ⊢
        rw [loopFor]
        rcases ranFirst : body value state with ⟨_ | next, after⟩
        · rw [ranFirst] at alive step
          obtain ⟨results, kept⟩ := step alive
          rcases ranSecond : other result partner with ⟨_ | _, _⟩
          all_goals rw [ranSecond] at results kept
          · exact ⟨given, kept⟩
          · cases results
        · rw [ranFirst] at alive step
          have between : live after := by
            dsimp only at alive
            split at alive
            · exact alive_loopFor begun rounds next after alive
            · exact alive
          obtain ⟨results, kept⟩ := step between
          rcases ranSecond : other result partner with ⟨_ | _, _⟩
          all_goals rw [ranSecond] at results kept
          · cases results
          · cases results with
            | some results =>
            dsimp only at alive kept ⊢
            by_cases moved : remaining after < remaining state
            · rw [if_pos moved] at alive
              rw [if_pos moved, if_pos ((inStep side kept).mp moved)]
              exact ih results kept alive
            · rw [if_neg moved] at alive
              rw [if_neg moved, if_neg fun also => moved ((inStep side kept).mpr also)]
              exact ⟨results, kept⟩

theorem tracks_loop (inStep : InStep ρ) (refl : Mortal live → ∀ value, related value value)
    (round : ∀ {value result}, related value result →
      Tracks live ρ (Option.Rel related) (body value) (other result))
    {value result : α} (given : related value result) :
    Tracks live ρ related (loop body value) (loop other result) where
  alive := (inStep.tracks_loopFor refl round _ given).alive
  tracks {state partner} := by
    intro side alive
    have first : loop body value state =
        loopFor body (max (remaining state) (remaining partner) + 1) value state :=
      loopFor_eq body value state (by omega) (by omega)
    have second : loop other result partner =
        loopFor other (max (remaining state) (remaining partner) + 1) result partner :=
      loopFor_eq other result partner (by omega) (by omega)
    rw [first] at alive ⊢
    rw [second]
    exact (inStep.tracks_loopFor refl round _ given).tracks side alive

theorem tracks_loop_same (inStep : InStep ρ)
    (round : ∀ value, Tracks live ρ Eq (body value) (other value)) (value : α) :
    Tracks live ρ Eq (loop body value) (loop other value) := by
  refine inStep.tracks_loop (fun _ _ => rfl) ?_ rfl
  rintro value _ rfl
  exact tracks_round (round value)

theorem tracks_whilst (inStep : InStep ρ) {test : Test}
    (asked : Tracks live ρ Eq (ask test) (ask test)) {body other : Analysis Unit}
    (round : Tracks live ρ Eq body other) :
    Tracks live ρ Eq (whilst test body) (whilst test other) := by
  have unfolded (body : Analysis Unit) : (fun state => if test.holds state then
      (some (), (body state).2) else (none, state)) = (do
        if ← ask test then
          body
          return some ()
        else return none : Analysis (Option Unit)) := by
    funext state
    rw [run_bind, run_ask, run_ite]
    rfl
  refine inStep.tracks_loop_same (fun _ => ?_) ()
  rw [unfolded, unfolded]
  refine tracks_then asked fun _ => tracks_ite _ ?_ (tracks_same none)
  exact tracks_then round fun _ => tracks_same (some ())

end InStep

theorem Test.value_ne_of_excludesPeriod {test : Test} {state : State}
    (excludes : test.excludesPeriod = true) (held : test.holds state = true) :
    state.current.value ≠ "." := by
  intro period
  unfold excludesPeriod at excludes
  split at excludes
  · next words =>
    have listed : words.contains state.current.value = true := held
    rw [period] at listed
    rw [listed] at excludes
    exact Bool.false_ne_true excludes
  · exact Bool.false_ne_true excludes

/-- A test has the same answer in two states if these have in common what it looks at. -/
theorem Test.holds_eq_of_looks {first second : State} {further : Nat}
    (category : first.current.category = second.current.category)
    (context : first.current.context = second.current.context)
    (beyond : first.current.value ≠ "." → ∀ offset ≤ further,
      (first.lookahead offset).value = (second.lookahead offset).value)
    {test : Test} {reach : Nat} (inside : test.looks further reach = true)
    (texts : ∀ offset ≤ reach, (first.lookahead offset).value = (second.lookahead offset).value) :
    test.holds first = test.holds second := by
  have value : first.current.value = second.current.value := texts 0 (Nat.zero_le reach)
  induction test generalizing reach with
  | word offset words => rw [holds, holds, texts offset (Nat.le_of_ble_eq_true inside)]
  | category offset categories =>
      obtain rfl : offset = 0 := Nat.le_zero.mp (Nat.le_of_ble_eq_true inside)
      exact congrArg categories.contains category
  | context expected => rw [holds, holds, context]
  | endMarker => rw [holds, holds, value]
  | subordinate => rw [holds, holds, value, category]
  | not test ih => rw [holds_not, holds_not, ih inside texts]
  | or _ _ ihFirst ihSecond =>
      rw [looks, Bool.and_eq_true] at inside
      rw [holds_or, holds_or, ihFirst inside.1 texts, ihSecond inside.2 texts]
  | and guard rest ihFirst ihSecond =>
      rw [looks, Bool.and_eq_true] at inside
      rw [holds_and, holds_and, ← ihFirst inside.1 texts]
      -- behind a guard that does not hold nothing is looked at
      cases held : guard.holds first with
      | false => rfl
      | true =>
          refine ihSecond inside.2 fun offset less => ?_
          cases excludes : guard.excludesPeriod with
          | false =>
              rw [excludes] at less
              exact texts offset less
          | true =>
              rw [excludes] at less
              exact beyond (value_ne_of_excludesPeriod excludes held) offset less

namespace Abreast

variable {reach : Nat} {same : Token → Token → Prop} {live : State → Prop}
  {ρ : State → State → Prop} {α β : Type} {related : α → α → Prop} {outcome : β → β → Prop}

/-! ## Looking -/

theorem is_eq (abreast : Abreast reach same live ρ)
    {token other : Token} (alike : same token other)
    (word : String) : token.is word = other.is word :=
  congrArg (· == word) (abreast.alike alike).1

/-- Tokens that are the same stay so under another category. -/
theorem retag_same (abreast : Abreast reach same live ρ) {token other : Token}
    (alike : same token other) (category : Category) :
    same (token.retag category) (other.retag category) := by
  have cast := abreast.recast token.value category token.context alike
  obtain ⟨value_eq, _, context_eq⟩ := abreast.alike alike
  rwa [show { other with value := token.value, category, context := token.context } =
    other.retag category by rw [value_eq, context_eq]; rfl] at cast

theorem holds_eq (abreast : Abreast reach same live ρ) {test : Test}
    (inside : test.within reach = true) {first second : State} (side : ρ first second) :
    test.holds first = test.holds second := by
  have ⟨_, category_eq, context_eq⟩ := abreast.alike (abreast.cursor side)
  refine Test.holds_eq_of_looks category_eq context_eq ?_ inside ?_
  · intro other offset less
    exact abreast.beyond side other less
  · intro offset less
    exact abreast.text side less

theorem tracks_ask (abreast : Abreast reach same live ρ) {test : Test}
    (inside : test.within reach = true) : Tracks live ρ Eq (ask test) (ask test) :=
  tracks_view fun side => abreast.holds_eq inside side

theorem tracks_current (abreast : Abreast reach same live ρ) :
    Tracks live ρ same current current :=
  tracks_view fun side => abreast.cursor side

theorem tracks_wordAt (abreast : Abreast reach same live ρ) {offset : Nat}
    (inside : offset ≤ reach) : Tracks live ρ Eq (wordAt offset) (wordAt offset) :=
  tracks_view fun side => abreast.text side inside

theorem tracks_word (abreast : Abreast reach same live ρ) : Tracks live ρ Eq word word :=
  abreast.tracks_wordAt (Nat.zero_le reach)

/-! ## Choice -/

/-- A choice by a test, which both runs make in the same way. -/
theorem tracks_choice (abreast : Abreast reach same live ρ)
    {test : Test} (inside : test.within reach = true)
    {yes no yes' no' : Analysis α} (first : Tracks live ρ related yes yes')
    (second : Tracks live ρ related no no') :
    Tracks live ρ related (do if ← ask test then yes else no)
      (do if ← ask test then yes' else no') :=
  tracks_then (abreast.tracks_ask inside) fun _ => tracks_ite _ first second

/-- What is done only if a test holds comes before what is done in any case. -/
theorem tracks_when (abreast : Abreast reach same live ρ)
    {test : Test} (inside : test.within reach = true)
    {yes yes' : Analysis Unit} {next next' : Unit → Analysis β}
    (first : Tracks live ρ Eq yes yes') (rest : Tracks live ρ outcome (next ()) (next' ())) :
    Tracks live ρ outcome (ask test >>= fun held => if held then yes >>= next else next ())
      (ask test >>= fun held => if held then yes' >>= next' else next' ()) :=
  abreast.tracks_choice inside (tracks_then first fun _ => rest) rest

theorem tracks_unless (abreast : Abreast reach same live ρ)
    {test : Test} (inside : test.within reach = true)
    {no no' : Analysis Unit} {next next' : Unit → Analysis β}
    (first : Tracks live ρ Eq no no') (rest : Tracks live ρ outcome (next ()) (next' ())) :
    Tracks live ρ outcome (ask test >>= fun held => if held then next () else no >>= next)
      (ask test >>= fun held => if held then next' () else no' >>= next') :=
  abreast.tracks_choice inside rest (tracks_then first fun _ => rest)

/-! ## Moving and reporting -/

theorem tracks_skip (abreast : Abreast (reach + 1) same live ρ) :
    Tracks live ρ Eq Analysis.skip Analysis.skip :=
  tracks_modify (fun state => abreast.alive (.skip state)) fun side alive =>
    abreast.skip side (Nat.le_add_left 1 reach) alive

theorem tracks_accept (abreast : Abreast reach same live ρ) :
    Tracks live ρ Eq accept accept :=
  tracks_modify (fun state => abreast.alive (.accept state)) fun side alive =>
    abreast.accepted side alive

theorem tracks_report (abreast : Abreast reach same live ρ) {token other : Token}
    (alike : same token other) (cause : Cause) :
    Tracks live ρ Eq (Analysis.report token cause) (Analysis.report other cause) :=
  tracks_modify (fun state => abreast.alive (.report token cause state)) fun side alive =>
    abreast.report cause side alike alive

theorem tracks_reportHere (abreast : Abreast reach same live ρ) (cause : Cause) :
    Tracks live ρ Eq (reportHere cause) (reportHere cause) :=
  tracks_modify (fun state => abreast.alive (.report _ cause state)) fun side alive =>
    abreast.report cause side (abreast.cursor side) alive

theorem tracks_reportBefore (abreast : Abreast reach same live ρ) (problem : Problem) :
    Tracks live ρ Eq (reportBefore problem) (reportBefore problem) :=
  tracks_modify (fun state => abreast.alive (.report _ _ state)) fun side alive =>
    abreast.reportedBefore _ side alive

/-- A token in whose place something is reported is passed over. -/
theorem tracks_reject (abreast : Abreast reach same live ρ) (cause : Cause) :
    Tracks live ρ Eq (reportHere cause >>= fun _ => Analysis.skip)
      (reportHere cause >>= fun _ => Analysis.skip) where
  alive alive := abreast.alive (.report _ cause _) (abreast.alive (.skip _) alive)
  tracks side alive := ⟨rfl, abreast.rejected cause side alive⟩

theorem tracks_rejectBefore (abreast : Abreast reach same live ρ) (problem : Problem) :
    Tracks live ρ Eq (reportBefore problem >>= fun _ => Analysis.skip)
      (reportBefore problem >>= fun _ => Analysis.skip) where
  alive alive := abreast.alive (.report _ _ _) (abreast.alive (.skip _) alive)
  tracks side alive := ⟨rfl, abreast.rejectedBefore _ side alive⟩

/-! ## Matching -/

theorem tracks_acceptIf (abreast : Abreast reach same live ρ)
    {test : Test} (inside : test.within reach = true)
    (cause : Cause) : Tracks live ρ Eq (acceptIf test cause) (acceptIf test cause) := by
  apply abreast.tracks_choice inside
  · exact tracks_then abreast.tracks_accept fun _ => tracks_same true
  · rw [← bind_assoc]
    exact tracks_then (abreast.tracks_reject cause) fun _ => tracks_same false

theorem tracks_expect (abreast : Abreast reach same live ρ) (literal : String) :
    Tracks live ρ Eq (expect literal) (expect literal) :=
  tracks_discard (abreast.tracks_acceptIf rfl _)

theorem tracks_expectOr (abreast : Abreast reach same live ρ)
    (literal : String) (problem : Problem) :
    Tracks live ρ Eq (expectOr literal problem) (expectOr literal problem) :=
  abreast.tracks_choice rfl abreast.tracks_accept (abreast.tracks_rejectBefore problem)

theorem tracks_optional (abreast : Abreast reach same live ρ) (literal : String) :
    Tracks live ρ Eq (optional literal) (optional literal) := by
  refine abreast.tracks_choice rfl ?_ (tracks_same false)
  exact tracks_then abreast.tracks_accept fun _ => tracks_same true

/-- A word that may be left out, whether it is there or not. -/
theorem tracks_optionalWord (abreast : Abreast reach same live ρ) (literal : String) :
    Tracks live ρ Eq (discard (optional literal) : Analysis Unit) (discard (optional literal)) :=
  tracks_discard (abreast.tracks_optional literal)

theorem tracks_choose (abreast : Abreast reach same live ρ) (literals : List String) :
    Tracks live ρ Eq (choose literals none) (choose literals none) :=
  abreast.tracks_choice rfl abreast.tracks_accept (abreast.tracks_reject _)

/-- A word that gets another category comes right after one that is accepted as it is.
The tokens at that word may differ between the runs, which read them as one. -/
theorem tracks_designate (abreast : Abreast reach same live ρ) (literals : List String)
    (category : Category) {rest other : Analysis Unit} (tracked : Tracks live ρ Eq rest other) :
    Tracks live ρ Eq
      (do
        accept
        if ← ask (.isAny literals) then acceptAs category else rest)
      (do
        accept
        if ← ask (.isAny literals) then acceptAs category else other) := by
  have named (state : State) : (Test.isAny literals).holds (state.emit state.current).skip =
      literals.contains (state.lookahead 1).value := by
    rw [Test.isAny, Test.holds, State.lookahead_skip, State.lookahead_emit]
  have run (rest : Analysis Unit) (state : State) :
      (do
        accept
        if ← ask (.isAny literals) then acceptAs category else rest : Analysis Unit) state =
        if literals.contains (state.lookahead 1).value then ((), state.designate category)
        else rest (state.emit state.current).skip := by
    rw [← named state]
    exact run_ite _ (acceptAs category) rest (state.emit state.current).skip
  constructor
  · intro state alive
    rw [run] at alive
    split at alive
    · exact abreast.alive (.designate category state) alive
    · exact abreast.alive (.accept state) (tracked.alive alive)
  · intro state partner side alive
    rw [run] at alive ⊢
    rw [run]
    split at alive
    · next listed =>
      obtain ⟨same, further⟩ := abreast.designate category side alive
      rw [if_pos listed, if_pos (same ▸ listed)]
      exact ⟨rfl, further⟩
    · next unlisted =>
      have further := abreast.accepted side (tracked.alive alive)
      have same : (Test.isAny literals).holds _ = (Test.isAny literals).holds _ :=
        abreast.holds_eq rfl further
      rw [named, named] at same
      rw [if_neg unlisted, if_neg (same ▸ unlisted)]
      exact tracked.tracks further alive

theorem tracks_operand (abreast : Abreast reach same live ρ) (categories : List Category)
    (description : String) :
    Tracks live ρ Eq (operand categories description) (operand categories description) :=
  abreast.tracks_acceptIf rfl _

theorem tracks_identifier (abreast : Abreast reach same live ρ) :
    Tracks live ρ Eq identifier identifier :=
  abreast.tracks_operand _ _

theorem tracks_number (abreast : Abreast reach same live ρ) : Tracks live ρ Eq number number :=
  tracks_discard (abreast.tracks_operand _ _)

/-! ## Loops -/

theorem inStep (abreast : Abreast reach same live ρ) : InStep ρ :=
  fun _ _ _ _ => abreast.moved

/-- Two runs of a loop go through the same rounds. -/
theorem tracks_loopFor (abreast : Abreast reach same live ρ)
    {body other : α → Analysis (Option α)} (refl : Mortal live → ∀ value, related value value)
    (round : ∀ {value result}, related value result →
      Tracks live ρ (Option.Rel related) (body value) (other result))
    (rounds : Nat) {value result : α} (given : related value result) :
    Tracks live ρ related (loopFor body rounds value) (loopFor other rounds result) :=
  abreast.inStep.tracks_loopFor refl round rounds given

theorem tracks_loop (abreast : Abreast reach same live ρ) {body other : α → Analysis (Option α)}
    (refl : Mortal live → ∀ value, related value value)
    (round : ∀ {value result}, related value result →
      Tracks live ρ (Option.Rel related) (body value) (other result))
    {value result : α} (given : related value result) :
    Tracks live ρ related (loop body value) (loop other result) :=
  abreast.inStep.tracks_loop refl round given

theorem tracks_loop_same (abreast : Abreast reach same live ρ)
    {body other : α → Analysis (Option α)}
    (round : ∀ value, Tracks live ρ Eq (body value) (other value)) (value : α) :
    Tracks live ρ Eq (loop body value) (loop other value) :=
  abreast.inStep.tracks_loop_same round value

theorem tracks_whilst (abreast : Abreast reach same live ρ)
    {test : Test} (inside : test.within reach = true)
    {body other : Analysis Unit} (round : Tracks live ρ Eq body other) :
    Tracks live ρ Eq (whilst test body) (whilst test other) :=
  abreast.inStep.tracks_whilst (abreast.tracks_ask inside) round

end Abreast

/-! ## Aligned states -/

/-- A relation between the states of two runs that see the same tokens around the
cursor at all times, and where nothing depends on what is still to come. -/
structure Aligned (same : Token → Token → Prop) (live : State → Prop)
    (ρ : State → State → Prop) : Prop where
  alike {token other : Token} : same token other →
    token.value = other.value ∧ token.category = other.category ∧ token.context = other.context
  recast {token other : Token} (value : String) (category : Category) (context : Context) :
    same token other →
      same { token with value, category, context } { other with value, category, context }
  refl (mortal : Mortal live) (token : Token) : same token token
  before {before after : State} : before.Later after → live after → live before
  lookahead {first second : State} {offset : Nat} : ρ first second → offset ≤ 3 →
    same (first.lookahead offset) (second.lookahead offset)
  reading {first second : State} (afterOperand : Bool) : ρ first second →
    (reading afterOperand first).1 = (reading afterOperand second).1
  previous {first second : State} : ρ first second → same first.previous second.previous
  moved {first second third fourth : State} : ρ first second → ρ third fourth →
    (remaining third < remaining first ↔ remaining fourth < remaining second)
  skip {first second : State} : ρ first second → live first.skip → ρ first.skip second.skip
  emit {first second : State} {token other : Token} : ρ first second → same token other →
    ρ (first.emit token) (second.emit other)
  report {first second : State} {token other : Token} (cause : Cause) : ρ first second →
    same token other → live (first.report token cause) →
      ρ (first.report token cause) (second.report other cause)
  nest {first second : State} (nesting deepest : Nat → Nat → Nat) : ρ first second →
    ρ { first with
        nesting := nesting first.nesting first.deepest
        deepest := deepest first.nesting first.deepest }
      { second with
        nesting := nesting second.nesting second.deepest
        deepest := deepest second.nesting second.deepest }

namespace Aligned

variable {same : Token → Token → Prop} {live : State → Prop} {ρ : State → State → Prop}

/-- Tokens that are the same stay so under another category. -/
theorem retag_same (aligned : Aligned same live ρ) {token other : Token}
    (alike : same token other) (category : Category) :
    same (token.retag category) (other.retag category) := by
  have cast := aligned.recast token.value category token.context alike
  obtain ⟨value_eq, _, context_eq⟩ := aligned.alike alike
  rwa [show { other with value := token.value, category, context := token.context } =
    other.retag category by rw [value_eq, context_eq]; rfl] at cast

theorem current_same (aligned : Aligned same live ρ) {first second : State}
    (side : ρ first second) : same first.current second.current :=
  aligned.lookahead side (Nat.zero_le 3)

/-- States that see the same tokens are parallel. -/
theorem parallel (aligned : Aligned same live ρ) : Parallel 2 same live ρ where
  alike := aligned.alike
  recast := aligned.recast
  refl := aligned.refl
  alive step := aligned.before step.later
  cursor := aligned.current_same
  text side less := (aligned.alike (aligned.lookahead side (Nat.le_succ_of_le less))).1
  beyond side _ less := (aligned.alike (aligned.lookahead side less)).1
  reading afterOperand side _ := aligned.reading afterOperand side
  moved := aligned.moved
  skip side _ alive := aligned.skip side alive
  accepted side alive := aligned.skip (aligned.emit side (aligned.current_same side)) alive
  designate {first second} category side alive := by
    have between : live (first.emit first.current).skip :=
      aligned.before (State.later_emit_skip _ _) alive
    have next := aligned.skip (aligned.emit side (aligned.current_same side)) between
    have named := aligned.retag_same (aligned.current_same next) category
    constructor
    · exact (aligned.alike (aligned.lookahead side (by decide))).1
    · exact aligned.skip (aligned.emit next named) alive
  report := aligned.report
  reportedBefore cause side alive := aligned.report cause side (aligned.previous side) alive
  rejected cause side alive :=
    have between := aligned.before (State.later_skip _) alive
    aligned.skip (aligned.report cause side (aligned.current_same side) between) alive
  rejectedBefore cause side alive :=
    have between := aligned.before (State.later_skip _) alive
    aligned.skip (aligned.report cause side (aligned.previous side) between) alive
  nest := aligned.nest

/-- The token at which a source text ends is accepted after its units. -/
theorem tracks_finish (aligned : Aligned same live ρ) :
    Tracks live ρ Eq (modify fun state => state.emit state.current : Analysis Unit)
      (modify fun state => state.emit state.current) :=
  tracks_modify (fun _ => aligned.before ⟨Nat.le_refl _, List.suffix_rfl⟩) fun side _ =>
    aligned.emit side (aligned.current_same side)

end Aligned

end CobolCheck
