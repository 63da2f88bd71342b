import CobolCheck.Proofs.Analysis.Closed
import CobolCheck.Proofs.Source.Lexed

/-!
# What an analysis reads

As long as nothing is reported, an analysis reads the tokens of a source text one
after the other. `State.Spells` says of which kind the tokens are that an
analysis reads in that case. A kind that holds of no token and of one list after
another one is kept by sequences and loops, and to be free of a landmark is such a
kind that every closed relation contains.
-/

namespace CobolCheck

namespace State

/-- Whether nothing has been reported and the cursor has only passed tokens of a
source text. -/
structure Clean (source : String) (state : State) : Prop where
  reports : state.reports = []
  behind : ∀ token ∈ state.behind, token ∈ Source.tokenize source
  sentinel : Landmark.endOfInput.Marks state.sentinel

/-- If all is clean after an analysis, then it has read tokens of a certain kind. -/
structure Spells (source : String) (kind : List Token → Prop) (before after : State) : Prop where
  reports : before.reports <:+ after.reports
  sentinel_eq : after.sentinel = before.sentinel
  exists_read : after.Clean source →
    ∃ read, after.behind = read.reverse ++ before.behind ∧ kind read

variable {source : String} {kind first second third : List Token → Prop}
  {before middle after state : State}

/-- What is clean after an analysis was clean before it. -/
theorem Spells.clean (spells : Spells source kind before after) (clean : after.Clean source) :
    before.Clean source := by
  obtain ⟨read, behind_eq, -⟩ := spells.exists_read clean
  constructor
  · have kept := spells.reports
    rw [clean.reports] at kept
    exact List.suffix_nil.mp kept
  · intro token member
    apply clean.behind
    rw [behind_eq]
    exact List.mem_append_right _ member
  · rw [← spells.sentinel_eq]
    exact clean.sentinel

theorem Spells.mono (spells : Spells source first before after)
    (wider : ∀ read, first read → second read) : Spells source second before after where
  reports := spells.reports
  sentinel_eq := spells.sentinel_eq
  exists_read clean := by
    obtain ⟨read, behind_eq, holds⟩ := spells.exists_read clean
    exact ⟨read, behind_eq, wider read holds⟩

/-- The tokens that a run reads are of every kind that is said of that run. -/
theorem Spells.and (one : Spells source first before after)
    (other : Spells source second before after) :
    Spells source (fun read => first read ∧ second read) before after where
  reports := one.reports
  sentinel_eq := one.sentinel_eq
  exists_read clean := by
    obtain ⟨read, behind_eq, holds⟩ := one.exists_read clean
    obtain ⟨same, same_eq, further⟩ := other.exists_read clean
    rw [behind_eq, List.append_cancel_right_eq, List.reverse_inj] at same_eq
    subst same_eq
    exact ⟨read, behind_eq, holds, further⟩

/-- What is read without a report are tokens of the source text. -/
theorem Spells.inside (spells : Spells source kind before after) :
    Spells source (fun read => kind read ∧ ∀ token ∈ read, token ∈ Source.tokenize source)
      before after where
  reports := spells.reports
  sentinel_eq := spells.sentinel_eq
  exists_read clean := by
    obtain ⟨read, behind_eq, holds⟩ := spells.exists_read clean
    refine ⟨read, behind_eq, holds, fun token member => clean.behind token ?_⟩
    rw [behind_eq]
    exact List.mem_append_left _ (List.mem_reverse.mpr member)

/-- Tokens of one kind are read after tokens of another kind. -/
theorem Spells.append (early : Spells source first before middle)
    (late : Spells source second middle after)
    (joined : ∀ {front rest}, first front → second rest → third (front ++ rest)) :
    Spells source third before after where
  reports := early.reports.trans late.reports
  sentinel_eq := late.sentinel_eq.trans early.sentinel_eq
  exists_read clean := by
    obtain ⟨front, middle_eq, front_holds⟩ := early.exists_read (late.clean clean)
    obtain ⟨rest, after_eq, rest_holds⟩ := late.exists_read clean
    refine ⟨front ++ rest, ?_, joined front_holds rest_holds⟩
    rw [after_eq, middle_eq, List.reverse_append, List.append_assoc]

/-- A run that reports something says nothing about what it reads. -/
theorem spells_of_reported (still : before.Still after) (reported : after.reports ≠ []) :
    Spells source kind before after where
  reports := still.reports
  sentinel_eq := still.sentinel_eq
  exists_read clean := absurd clean.reports reported

theorem reports_reject_ne_nil (token : Token) (cause : Cause) (state : State) :
    (state.report token cause).skip.reports ≠ [] := by
  rw [reports_skip]
  exact List.cons_ne_nil _ _

/-- What is passed over in place of a report does not matter. -/
theorem spells_reject (token : Token) (cause : Cause) (state : State) :
    Spells source kind state (state.report token cause).skip :=
  spells_of_reported ((closed_still .endOfInput).reject state token cause)
    (reports_reject_ne_nil token cause state)

/-- Nothing is said of a run once something was reported, whatever comes later. -/
theorem Spells.after_report (late : Spells source first middle after) (still : before.Still middle)
    (reported : middle.reports ≠ []) : Spells source second before after where
  reports := still.reports.trans late.reports
  sentinel_eq := late.sentinel_eq.trans still.sentinel_eq
  exists_read clean := absurd (late.clean clean).reports reported

/-- Tokens of one kind and then tokens of another kind. -/
def Then (first second : List Token → Prop) (read : List Token) : Prop :=
  ∃ front rest, read = front ++ rest ∧ first front ∧ second rest

theorem spells_bind {α β : Type} {analysis : Analysis α} {next : α → Analysis β}
    (early : Analysis.Obeys (Spells source first) analysis)
    (late : ∀ value, Analysis.Obeys (Spells source second) (next value)) :
    Analysis.Obeys (Spells source (Then first second)) (analysis >>= next) := by
  intro state
  rw [Analysis.run_bind]
  exact (early state).append (late _ _) fun front rest => ⟨_, _, rfl, front, rest⟩

/-- What follows a report does not matter. -/
theorem spells_reportHere_bind {α : Type} (cause : Cause) {next : Unit → Analysis α}
    (rest : Analysis.ObeysFrom (fun state => state.reports ≠ []) State.Still (next ())) :
    Analysis.Obeys (Spells source kind) (Analysis.reportHere cause >>= next) := by
  intro state
  have still := closed_still .endOfInput
  apply spells_of_reported (still.obeys_reportHere_bind cause rest state)
  exact still.reports_ne_nil (rest _ (List.cons_ne_nil _ _)) (List.cons_ne_nil _ _)

theorem chained_spells (nil : kind [])
    (append : ∀ {front rest}, kind front → kind rest → kind (front ++ rest)) :
    Chained (Spells source kind) where
  refl _ := ⟨List.suffix_rfl, rfl, fun _ => ⟨[], rfl, nil⟩⟩
  trans early late := early.append late append
  reports spells := spells.reports

/-! ## Accepting -/

theorem behind_skip (state : State) :
    state.skip.behind = state.behind ∧ state.ahead = [] ∨
      state.skip.behind = state.current :: state.behind := by
  cases next : state.ahead with
  | nil => exact .inl ⟨by rw [skip_of_ahead_nil next], rfl⟩
  | cons token rest => exact .inr (by rw [skip_of_ahead_cons next, current_of_ahead_cons next])

/-- Accepting reads the token at the cursor, unless that is the sentinel. -/
theorem spells_accept (token : Token) (nil : state.current = state.sentinel → kind [])
    (single : kind [state.current]) : Spells source kind state (state.emit token).skip where
  reports := (still_emit_skip token state).reports
  sentinel_eq := (still_emit_skip token state).sentinel_eq
  exists_read _ := by
    rcases behind_skip (state.emit token) with ⟨behind_eq, finished⟩ | behind_eq
    · exact ⟨[], behind_eq, nil (current_of_ahead_nil finished)⟩
    · exact ⟨[state.current], behind_eq, single⟩

/-- Accepting a token other than the end of the input reads that token. -/
theorem spells_accept_of_inside (inside : ¬Landmark.endOfInput.Marks state.current) :
    Spells source (· = [state.current]) state (state.emit state.current).skip where
  reports := (still_emit_skip _ state).reports
  sentinel_eq := (still_emit_skip _ state).sentinel_eq
  exists_read clean := by
    rcases behind_skip (state.emit state.current) with ⟨_, finished⟩ | behind_eq
    · have current_eq : state.current = state.sentinel := current_of_ahead_nil finished
      have ended := clean.sentinel
      rw [(still_emit_skip _ state).sentinel_eq, ← current_eq] at ended
      exact absurd ended inside
    · exact ⟨[state.current], behind_eq, rfl⟩

/-- A single token that is a word. -/
def Single (word : String) (read : List Token) : Prop :=
  ∃ token, read = [token] ∧ token.value = word

/-- Accepting a word other than that of the end of the input reads that word. -/
theorem spells_accept_of_holds {word : String} (held : (Test.is word).holds state = true)
    (inside : word ≠ "EOF") :
    Spells source (Single word) state (state.emit state.current).skip := by
  rw [Test.holds_is_iff] at held
  have known : ¬Landmark.endOfInput.Marks state.current :=
    fun ended => inside (held.symm.trans ended.1)
  exact (spells_accept_of_inside known).mono fun _ read_eq => ⟨state.current, read_eq, held⟩

/-- A word that is expected is read. -/
theorem spells_expect {word : String} (inside : word ≠ "EOF") :
    Analysis.Obeys (Spells source (Single word)) (Analysis.expect word) := by
  intro state
  rw [Analysis.expect, Analysis.run_discard, Analysis.run_acceptIf]
  split
  · next held => exact spells_accept_of_holds held inside
  · exact spells_reject _ _ state

theorem spells_optional {word : String} (inside : word ≠ "EOF") :
    Analysis.Obeys (Spells source (fun read => read = [] ∨ Single word read))
      (Analysis.optional word) := by
  intro state
  rw [Analysis.optional, Analysis.run_bind, Analysis.run_ask, Analysis.run_ite]
  split
  · next held => exact (spells_accept_of_holds held inside).mono fun _ => .inr
  · exact ⟨List.suffix_rfl, rfl, fun _ => ⟨[], rfl, .inl rfl⟩⟩

theorem spells_expectOr {word : String} (inside : word ≠ "EOF") (problem : Problem) :
    Analysis.Obeys (Spells source (Single word)) (Analysis.expectOr word problem) := by
  intro state
  rw [Analysis.run_expectOr]
  split
  · next held => exact spells_accept_of_holds held inside
  · exact spells_reject _ _ state

/-- An operand of one of some categories, other than that of an end of input, is the
token at the cursor. -/
theorem spells_operand {categories : List Category} (inside : Category.eof ∉ categories)
    (description : String) (state : State) :
    Spells source (fun read => read = [state.current] ∧ state.current.category ∈ categories) state
      (Analysis.operand categories description state).2 := by
  rw [Analysis.operand, Analysis.run_acceptIf]
  split
  · next held =>
    have listed := (Test.holds_has_iff categories state).mp held
    have known : ¬Landmark.endOfInput.Marks state.current := by
      rintro ⟨_, category_eq, _⟩
      rw [category_eq] at listed
      exact inside listed
    exact (spells_accept_of_inside known).mono fun _ read_eq => ⟨read_eq, listed⟩
  · exact spells_reject _ _ state

/-! ## Tokens that are no landmark -/

/-- Tokens among which a landmark is not. -/
def Free (landmark : Landmark) (read : List Token) : Prop :=
  ∀ token ∈ read, ¬landmark.Marks token

/-- No analysis that stops before a landmark reads it. -/
theorem closed_free (source : String) (landmark : Landmark) :
    Closed landmark (Spells source (Free landmark)) where
  toChained := chained_spells (by simp [Free])
    fun front rest => List.forall_mem_append.mpr ⟨front, rest⟩
  move step := by
    have still := step.still
    cases step with
    | accept clear => exact spells_accept _ (fun _ => by simp [Free]) (by simpa [Free] using clear)
    | acceptDevice last clear =>
        exact spells_accept _ (fun _ => by simp [Free]) (by simpa [Free] using clear)
    | recover reported => exact spells_of_reported still (by simpa [emit] using reported)
    | report => exact spells_of_reported still (List.cons_ne_nil _ _)
    | skip reported => exact spells_of_reported still (by simpa using reported)
    | nest => exact ⟨List.suffix_rfl, rfl, fun _ => ⟨[], rfl, by simp [Free]⟩⟩

/-- A kind of tokens that holds of all tokens of a source text without some
landmarks, and of one list after another one. -/
structure Admits (source : String) (landmarks : List Landmark) (kind : List Token → Prop) :
    Prop where
  nonempty : landmarks ≠ []
  free {read : List Token} (inside : ∀ token ∈ read, token ∈ Source.tokenize source)
    (free : ∀ landmark ∈ landmarks, Free landmark read) : kind read
  append {front rest : List Token} : kind front → kind rest → kind (front ++ rest)

namespace Admits

variable {landmarks : List Landmark}

theorem chained (admits : Admits source landmarks kind) : Chained (Spells source kind) :=
  chained_spells (admits.free (by simp) (by simp [Free])) admits.append

/-- What is free of each landmark is of every kind that admits it. -/
theorem spells (admits : Admits source landmarks kind)
    (each : ∀ landmark ∈ landmarks, Spells source (Free landmark) before after) :
    Spells source kind before after := by
  obtain ⟨landmark, rest, rfl⟩ := List.exists_cons_of_ne_nil admits.nonempty
  have early := each landmark List.mem_cons_self
  refine ⟨early.reports, early.sentinel_eq, fun clean => ?_⟩
  obtain ⟨read, behind_eq, -⟩ := early.exists_read clean
  refine ⟨read, behind_eq, admits.free (fun token member => ?_) fun other listed => ?_⟩
  · apply clean.behind
    rw [behind_eq]
    exact List.mem_append_left _ (List.mem_reverse.mpr member)
  · -- the tokens read are the same for every landmark
    obtain ⟨same, same_eq, free⟩ := (each other listed).exists_read clean
    rw [behind_eq, List.append_cancel_right_eq, List.reverse_inj] at same_eq
    rwa [same_eq]

theorem obeys (admits : Admits source landmarks kind) {α : Type} {analysis : Analysis α}
    (each : ∀ landmark ∈ landmarks, Analysis.Obeys (Spells source (Free landmark)) analysis) :
    Analysis.Obeys (Spells source kind) analysis :=
  fun state => admits.spells fun landmark listed => each landmark listed state

end Admits

end State

end CobolCheck
