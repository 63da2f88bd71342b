import CobolCheck.Proofs.Analysis.Closed

/-!
# What analyses achieve without a report

Whatever is missing is reported, so an analysis that reports nothing has found all that
it looked for. `Brings` says what holds behind an analysis in that case, and the rules
below put it together from the parts of the analysis.
-/

namespace CobolCheck

/-- Whether one thing that held before brings about another one, unless something is
reported. No report is withdrawn. -/
structure Brings (pre post : State → Prop) (before after : State) : Prop where
  reports : before.reports <:+ after.reports
  holds : after.reports = [] → pre before → post after

namespace Brings

variable {pre mid post : State → Prop} {before middle after : State}

theorem refl (invariant : State → Prop) (state : State) : Brings invariant invariant state state :=
  ⟨List.suffix_rfl, fun _ => id⟩

theorem trans (early : Brings pre mid before middle) (late : Brings mid post middle after) :
    Brings pre post before after where
  reports := early.reports.trans late.reports
  holds unreported held := by
    have between : middle.reports = [] := by
      have kept := late.reports
      rwa [unreported, List.suffix_nil] at kept
    exact late.holds unreported (early.holds between held)

theorem of_reported (kept : before.reports <:+ after.reports) (reported : after.reports ≠ []) :
    Brings pre post before after :=
  ⟨kept, fun unreported => absurd unreported reported⟩

/-- What comes after a report need not bring about anything. -/
theorem of_report {state : State} {token : Token} {cause : Cause}
    (kept : (state.report token cause).reports <:+ after.reports) :
    Brings pre post state after := by
  refine .of_reported ((List.suffix_cons _ _).trans kept) fun unreported => ?_
  rw [unreported, List.suffix_nil] at kept
  exact List.cons_ne_nil _ _ kept

theorem mono {wider : State → Prop} (brings : Brings pre post before after)
    (implies : ∀ state, post state → wider state) : Brings pre wider before after :=
  ⟨brings.reports, fun unreported held => implies _ (brings.holds unreported held)⟩

theorem of_imp {narrower : State → Prop} (brings : Brings pre post before after)
    (implies : ∀ state, narrower state → pre state) : Brings narrower post before after :=
  ⟨brings.reports, fun unreported held => brings.holds unreported (implies _ held)⟩

end Brings

/-- What no move changes every analysis brings along. -/
theorem closed_brings {landmark : Landmark} {invariant : State → Prop}
    (moved : ∀ {before after : State}, before.Still after → invariant before → invariant after) :
    Closed landmark (Brings invariant invariant) where
  refl := Brings.refl invariant
  trans := Brings.trans
  move step := ⟨step.still.reports, fun _ => moved step.still⟩
  reports brings := brings.reports

namespace Analysis

variable {pre mid post : State → Prop} {α β : Type}

/-- What an analysis and its result bring about, unless something is reported. -/
def Yields (pre : State → Prop) (post : α → State → Prop) (analysis : Analysis α) : Prop :=
  ∀ state, Brings pre (post (analysis state).1) state (analysis state).2

theorem yields_pure {post : α → State → Prop} (value : α)
    (holds : ∀ state, pre state → post value state) : Yields pre post (pure value) :=
  fun state => ⟨List.suffix_rfl, fun _ => holds state⟩

theorem Yields.bind {analysis : Analysis α} {next : α → Analysis β} {mid : α → State → Prop}
    {post : β → State → Prop} (first : Yields pre mid analysis)
    (second : ∀ value, Yields (mid value) post (next value)) :
    Yields pre post (analysis >>= next) := by
  intro state
  rw [run_bind]
  exact (first state).trans (second _ _)

/-- The result of an analysis does not matter to a relation. -/
theorem Obeys.discard {R : State → State → Prop} {analysis : Analysis α}
    (obeyed : Obeys R analysis) : Obeys R (Functor.discard analysis : Analysis Unit) :=
  obeyed

/-- What comes before an analysis keeps what it needs. -/
theorem Obeys.yields_bind {analysis : Analysis α} {next : α → Analysis β}
    {post : β → State → Prop} (first : Obeys (Brings pre pre) analysis)
    (second : ∀ value, Yields pre post (next value)) : Yields pre post (analysis >>= next) :=
  fun state => (first state).trans (second _ _)

theorem yields_ite {post : α → State → Prop} {yes no : Analysis α} (held : Prop) [Decidable held]
    (first : held → Yields pre post yes) (second : ¬held → Yields pre post no) :
    Yields pre post (if held then yes else no) := by
  by_cases holds : held
  · rw [if_pos holds]
    exact first holds
  · rw [if_neg holds]
    exact second holds

/-- Each alternative of a choice yields what the choice yields. -/
theorem yields_ask {test : Test} {post : α → State → Prop} {yes no : Analysis α}
    (first : Yields pre post yes) (second : Yields pre post no) :
    Yields pre post (do if ← ask test then yes else no) := by
  intro state
  rw [run_bind, run_ask, run_ite]
  split
  · exact first state
  · exact second state

end Analysis

end CobolCheck
