import CobolCheck.Expression.Arithmetic
import CobolCheck.Proofs.Analysis.Parallel

/-!
# Expressions side by side

A condition is judged by the roles of its terms, and an arithmetic expression by
what was read last. The tokens in them are kept only for the reports, so two
runs that read the same tokens judge them alike.
-/

namespace CobolCheck

/-! ## Terms -/

/-- Whether two terms have the same role and tokens that are the same. -/
structure Term.Same (same : Token → Token → Prop) (term other : Term) : Prop where
  role_eq : term.role = other.role
  token : same term.token other.token

/-- What two lists have in common at their beginnings, and what follows there. -/
theorem forall₂_span {α : Type} {R : α → α → Prop} {p : α → Bool}
    (alike : ∀ value other, R value other → p value = p other) {first second : List α}
    (related : List.Forall₂ R first second) :
    List.Forall₂ R (first.takeWhile p) (second.takeWhile p) ∧
      List.Forall₂ R (first.dropWhile p) (second.dropWhile p) := by
  induction related with
  | nil => exact ⟨.nil, .nil⟩
  | @cons value other rest others heads tails ih =>
      rw [List.takeWhile_cons, List.takeWhile_cons, List.dropWhile_cons, List.dropWhile_cons,
        alike _ _ heads]
      split
      · exact ⟨.cons heads ih.1, ih.2⟩
      · exact ⟨.nil, .cons heads tails⟩

namespace Term

variable {same : Token → Token → Prop} {terms others : List Term}

theorem balancedFrom_eq (alike : List.Forall₂ (Term.Same same) terms others) (depth : Nat) :
    balancedFrom depth terms = balancedFrom depth others := by
  induction alike generalizing depth with
  | nil => rfl
  | cons heads _ ih =>
      unfold balancedFrom
      rw [heads.role_eq]
      split
      all_goals first
        | rfl
        | exact ih _

theorem precedes_eq (precedence : Nat) (rightAssociative : Bool) (term other : Term)
    (alike : Term.Same same term other) :
    precedes precedence rightAssociative term = precedes precedence rightAssociative other := by
  rw [precedes, precedes, alike.role_eq]

theorem isOpening_eq (term other : Term) (alike : Term.Same same term other) :
    (term.role != .opening) = (other.role != .opening) := by
  rw [alike.role_eq]

/-- Operators wait for one another as their roles say, so the postorder is that of the roles. -/
theorem forall₂_postorderFrom {waiting pending : List Term}
    (held : List.Forall₂ (Term.Same same) waiting pending)
    (alike : List.Forall₂ (Term.Same same) terms others) :
    List.Forall₂ (Term.Same same) (postorderFrom waiting terms) (postorderFrom pending others) := by
  induction alike generalizing waiting pending with
  | nil =>
      refine List.rel_filter (fun _ _ same => ?_) held
      exact iff_of_eq (congrArg (· = true) (isOpening_eq _ _ same))
  | cons heads _ ih =>
      unfold postorderFrom
      rw [heads.role_eq]
      split
      · exact .cons heads (ih held)
      · exact .cons heads (ih held)
      · exact ih (.cons heads held)
      · exact ih (.cons heads held)
      · next precedence rightAssociative _ =>
        have ⟨first, rest⟩ := forall₂_span (precedes_eq precedence rightAssociative) held
        exact List.rel_append first (ih (.cons heads rest))
      · have ⟨first, rest⟩ := forall₂_span isOpening_eq held
        exact List.rel_append first (ih (List.forall₂_drop 1 rest))

theorem rel_faultFrom {last latest : Option Term} (before : Option.Rel (Term.Same same) last latest)
    (alike : List.Forall₂ (Term.Same same) terms others) (depth : Nat) :
    Option.Rel same (faultFrom last depth terms) (faultFrom latest depth others) := by
  induction alike generalizing last latest depth with
  | nil =>
      rw [faultFrom, faultFrom]
      split
      · exact .none
      · cases before with
        | none => exact .none
        | some before => exact .some before.token
  | cons heads _ ih =>
      unfold faultFrom
      rw [heads.role_eq]
      split
      · exact ih (.some heads) _
      · split
        · exact .some heads.token
        · exact ih (.some heads) _
      · split
        · exact .some heads.token
        · exact ih (.some heads) _
      · split
        · exact .some heads.token
        · exact ih (.some heads) _
      · exact ih (.some heads) _
      · exact ih (.some heads) _

theorem rel_fault? (alike : List.Forall₂ (Term.Same same) terms others) :
    Option.Rel same (fault? (postorder terms)) (fault? (postorder others)) :=
  rel_faultFrom .none (forall₂_postorderFrom .nil alike) 0

end Term

/-! ## Scans of arithmetic expressions -/

/-- Whether two runs read last what is the same. -/
inductive Preceding.Same (same : Token → Token → Prop) : Preceding → Preceding → Prop
  | start : Same same .start .start
  | operand : Same same .operand .operand
  | operator {token other : Option Token} (alike : Option.Rel same token other) :
      Same same (.operator token) (.operator other)
  | opening : Same same .opening .opening
  | closing : Same same .closing .closing

/-- Whether two scans differ only in the token of the operator that was read last. -/
structure ArithmeticScan.Same (same : Token → Token → Prop) (scan other : ArithmeticScan) :
    Prop where
  preceding : Preceding.Same same scan.preceding other.preceding
  depth_eq : scan.depth = other.depth
  crossed_eq : scan.crossed = other.crossed
  sound_eq : scan.sound = other.sound

theorem ArithmeticScan.Same.refl {same : Token → Token → Prop}
    (refl : ∀ token, same token token) (scan : ArithmeticScan) :
    ArithmeticScan.Same same scan scan := by
  refine ⟨?_, rfl, rfl, rfl⟩
  cases scan.preceding with
  | start => exact .start
  | operand => exact .operand
  | operator token =>
      cases token with
      | none => exact .operator .none
      | some token => exact .operator (.some (refl token))
  | opening => exact .opening
  | closing => exact .closing

theorem Preceding.Same.complete_eq {same : Token → Token → Prop} {preceding other : Preceding}
    (alike : Preceding.Same same preceding other) : preceding.complete = other.complete := by
  cases alike <;> rfl

theorem Preceding.Same.start_iff {same : Token → Token → Prop} {preceding other : Preceding}
    (alike : Preceding.Same same preceding other) : preceding = .start ↔ other = .start := by
  cases alike <;> simp

namespace Analysis

/-- What is reported of an arithmetic expression at its end. -/
def arithmeticEnd (first : Token) (scan : ArithmeticScan) : Analysis Bool := do
  let scan ←
    if scan.preceding = .start then
      reportHere
        (.expectedCategory "identifier, numeric literal or valid arithmetic symbol")
      pure { scan with sound := false }
    else complainOfTrailing scan
  let scan ←
    if scan.crossed || scan.depth != 0 then complain first .unbalancedArithmetic scan
    else pure scan
  return scan.sound

theorem arithmetic_eq : arithmetic = (do
    let first ← current
    let scan ← loop readArithmetic {}
    arithmeticEnd first scan) :=
  rfl

end Analysis

namespace Abreast

open Analysis

variable {reach : Nat} {same : Token → Token → Prop} {live : State → Prop}
  {ρ : State → State → Prop}

/-! ## Conditions -/

theorem tracks_acceptMany (abreast : Abreast reach same live ρ) (count : Nat) :
    Tracks live ρ Eq (acceptMany count) (acceptMany count) := by
  induction count with
  | zero => exact tracks_same ()
  | succ count ih => exact tracks_then abreast.tracks_accept fun _ => ih

theorem refl_terms (abreast : Abreast reach same live ρ)
    (mortal : Mortal live) (terms : List Term) :
    List.Forall₂ (Term.Same same) terms terms :=
  List.forall₂_same.mpr fun term _ => ⟨rfl, abreast.refl mortal term.token⟩

/-- The token of a reading stands at the place of its first word. -/
theorem term?_same (abreast : Abreast reach same live ρ)
    (reading : Reading) {first second : Token}
    (alike : same first second) :
    List.Forall₂ (Term.Same same) (reading.term? first).toList (reading.term? second).toList := by
  have token : same (reading.token first) (reading.token second) := by
    unfold Reading.token
    split
    · exact alike
    · exact abreast.recast reading.text .symbol .plain alike
  unfold Reading.term?
  cases reading.role with
  | none => exact .nil
  | some role => exact .cons ⟨rfl, token⟩ .nil

/-- The next term of a condition is read alike if both runs end the condition at the same
place, and read the same words before its end. -/
theorem tracks_readTerm_of (abreast : Abreast reach same live ρ) {delimiter : String}
    (ends : ∀ {first second : State}, ρ first second →
      (conditionEnd delimiter).holds first = (conditionEnd delimiter).holds second)
    (reads : ∀ {first second : State} (afterOperand : Bool), ρ first second →
      (conditionEnd delimiter).holds first = false →
        (Analysis.reading afterOperand first).1 = (Analysis.reading afterOperand second).1)
    {terms others : List Term} (alike : List.Forall₂ (Term.Same same) terms others) :
    Tracks live ρ (Option.Rel (List.Forall₂ (Term.Same same))) (readTerm delimiter terms)
      (readTerm delimiter others) := by
  let next (terms : List Term) (state : State) : Reading :=
    (Analysis.reading ((terms.head?.map fun term => term.role.endsOperand).getD false) state).1
  have run (terms : List Term) (state : State) : readTerm delimiter terms state =
      if (conditionEnd delimiter).holds state then (none, state)
      else (some (((next terms state).term? state.current).toList ++ terms),
        (acceptMany (next terms state).count state).2) := by
    rw [readTerm, run_bind, run_ask, run_ite]
    rfl
  constructor
  · intro state alive
    rw [run] at alive
    split at alive
    · exact alive
    · exact (abreast.tracks_acceptMany _).alive alive
  · intro state partner side alive
    rw [run] at alive ⊢
    rw [run, ← ends side]
    cases ended : (conditionEnd delimiter).holds state with
    | true => exact ⟨.none, side⟩
    | false =>
        have same : next others partner = next terms state := by
          have before : ((terms.head?.map fun term => term.role.endsOperand).getD false) =
              (others.head?.map fun term => term.role.endsOperand).getD false := by
            cases alike with
            | nil => rfl
            | cons heads _ => exact congrArg Role.endsOperand heads.role_eq
          simp only [next]
          rw [before]
          exact (reads _ side ended).symm
        rw [ended] at alive
        have accepted := (abreast.tracks_acceptMany (next terms state).count).tracks side alive
        rw [same]
        exact ⟨.some (List.rel_append (abreast.term?_same _ (abreast.cursor side)) alike),
          accepted.2⟩

theorem tracks_readTerm (abreast : Abreast (reach + 1) same live ρ) (delimiter : String)
    {terms others : List Term} (alike : List.Forall₂ (Term.Same same) terms others) :
    Tracks live ρ (Option.Rel (List.Forall₂ (Term.Same same))) (readTerm delimiter terms)
      (readTerm delimiter others) :=
  abreast.tracks_readTerm_of (fun side => abreast.holds_eq rfl side)
    (fun afterOperand side _ => abreast.reading afterOperand side (Nat.le_add_left 1 reach)) alike

theorem tracks_judgeCondition (abreast : Abreast reach same live ρ) {first second : Token}
    (begins : same first second) {terms others : List Term}
    (alike : List.Forall₂ (Term.Same same) terms others) :
    Tracks live ρ Eq (judgeCondition first terms) (judgeCondition second others) := by
  have empty : terms.isEmpty = others.isEmpty := by
    cases alike with
    | nil => rfl
    | cons => rfl
  have balance : Term.balanced terms = Term.balanced others := Term.balancedFrom_eq alike 0
  unfold judgeCondition
  rw [empty, balance]
  refine tracks_ite _ (abreast.tracks_reportHere _) ?_
  have unbalanced := abreast.tracks_report begins (.general .unbalancedCondition)
  have fault := Term.rel_fault? alike
  generalize Term.fault? (Term.postorder terms) = token at fault ⊢
  generalize Term.fault? (Term.postorder others) = other at fault ⊢
  cases fault with
  | some found =>
    have faulty := abreast.tracks_report found (.general .invalidCondition)
    exact tracks_ite _ (tracks_then unbalanced fun _ => faulty) faulty
  | none =>
    have fine : Tracks live ρ Eq (pure ()) (pure ()) := tracks_same ()
    exact tracks_ite _ (tracks_then unbalanced fun _ => fine) fine

/-- A condition is read alike if its terms are. -/
theorem tracks_condition_of (abreast : Abreast reach same live ρ) {delimiter : String}
    (term : ∀ {terms others}, List.Forall₂ (Term.Same same) terms others →
      Tracks live ρ (Option.Rel (List.Forall₂ (Term.Same same))) (readTerm delimiter terms)
        (readTerm delimiter others)) :
    Tracks live ρ Eq (condition delimiter) (condition delimiter) := by
  have terms : Tracks live ρ (List.Forall₂ (Term.Same same)) (conditionTerms delimiter)
      (conditionTerms delimiter) := by
    refine tracks_bind abreast.refl_terms ?_ fun alike =>
      tracks_pure (List.rel_reverse alike)
    exact abreast.tracks_loop abreast.refl_terms term .nil
  refine tracks_bind abreast.refl abreast.tracks_current fun first => ?_
  exact tracks_bind abreast.refl_terms terms fun alike =>
    abreast.tracks_judgeCondition first alike

theorem tracks_condition (abreast : Abreast (reach + 1) same live ρ) (delimiter : String) :
    Tracks live ρ Eq (condition delimiter) (condition delimiter) :=
  abreast.tracks_condition_of (abreast.tracks_readTerm delimiter)

/-! ## Arithmetic expressions -/

theorem refl_scan (abreast : Abreast reach same live ρ) (mortal : Mortal live)
    (scan : ArithmeticScan) : ArithmeticScan.Same same scan scan :=
  .refl (abreast.refl mortal) scan

theorem tracks_complain (abreast : Abreast reach same live ρ) {token other : Token}
    (alike : same token other) (problem : Problem) {scan partner : ArithmeticScan}
    (scans : ArithmeticScan.Same same scan partner) :
    Tracks live ρ (ArithmeticScan.Same same) (complain token problem scan)
      (complain other problem partner) :=
  tracks_then (abreast.tracks_report alike _) fun _ =>
    tracks_pure ⟨scans.preceding, scans.depth_eq, scans.crossed_eq, rfl⟩

theorem tracks_complainOfTrailing (abreast : Abreast reach same live ρ)
    {scan partner : ArithmeticScan}
    (scans : ArithmeticScan.Same same scan partner) :
    Tracks live ρ (ArithmeticScan.Same same) (complainOfTrailing scan)
      (complainOfTrailing partner) := by
  have silent : Tracks live ρ (ArithmeticScan.Same same) (pure scan) (pure partner) :=
    tracks_pure scans
  have preceding := scans.preceding
  unfold complainOfTrailing
  generalize scan.preceding = last at preceding ⊢
  generalize partner.preceding = latest at preceding ⊢
  cases preceding with
  | operator tokens =>
      cases tokens with
      | none => exact silent
      | some alike => exact abreast.tracks_complain alike _ scans
  | _ => exact silent

theorem tracks_closeParenthesis (abreast : Abreast reach same live ρ) {token other : Token}
    (alike : same token other) {scan partner : ArithmeticScan}
    (scans : ArithmeticScan.Same same scan partner) :
    Tracks live ρ (ArithmeticScan.Same same) (closeParenthesis token scan)
      (closeParenthesis other partner) := by
  have rest {scan partner : ArithmeticScan} (scans : ArithmeticScan.Same same scan partner) :
      Tracks live ρ (ArithmeticScan.Same same)
        (do
          accept
          return { scan with
            preceding := .closing, depth := scan.depth - 1,
            crossed := scan.crossed || scan.depth == 0 })
        (do
          accept
          return { partner with
            preceding := .closing, depth := partner.depth - 1,
            crossed := partner.crossed || partner.depth == 0 }) := by
    refine tracks_then abreast.tracks_accept fun _ => tracks_pure ?_
    refine ⟨.closing, ?_, ?_, scans.sound_eq⟩
    · dsimp only
      rw [scans.depth_eq]
    · dsimp only
      rw [scans.crossed_eq, scans.depth_eq]
  have trailing := tracks_bind abreast.refl_scan
    (abreast.tracks_complainOfTrailing scans) rest
  have preceding := scans.preceding
  unfold closeParenthesis
  dsimp only
  generalize scan.preceding = last at preceding ⊢
  generalize partner.preceding = latest at preceding ⊢
  cases preceding with
  | opening =>
      exact tracks_bind abreast.refl_scan (abreast.tracks_complain alike _ scans) rest
  | _ => exact trailing

theorem tracks_readOperator (abreast : Abreast reach same live ρ) {token other : Token}
    (alike : same token other) {scan partner : ArithmeticScan}
    (scans : ArithmeticScan.Same same scan partner) :
    Tracks live ρ (ArithmeticScan.Same same) (readOperator token scan)
      (readOperator other partner) := by
  have rest {scan partner : ArithmeticScan} (scans : ArithmeticScan.Same same scan partner) :
      Tracks live ρ (ArithmeticScan.Same same)
        (do
          accept
          return { scan with preceding := .operator (some token) })
        (do
          accept
          return { partner with preceding := .operator (some other) }) :=
    tracks_then abreast.tracks_accept fun _ => tracks_pure
      ⟨.operator (.some alike), scans.depth_eq, scans.crossed_eq, scans.sound_eq⟩
  have complained (problem : Problem) := tracks_bind abreast.refl_scan
    (abreast.tracks_complain alike problem scans) rest
  have silent := tracks_bind abreast.refl_scan (tracks_pure scans) rest
  have preceding := scans.preceding
  unfold readOperator
  dsimp only
  rw [abreast.is_eq alike, abreast.is_eq alike]
  generalize scan.preceding = last at preceding ⊢
  generalize partner.preceding = latest at preceding ⊢
  cases preceding with
  | start => exact tracks_ite _ (complained _) silent
  | operand => exact silent
  | operator => exact complained _
  | opening => exact tracks_ite _ (complained _) silent
  | closing => exact silent

/-- A token of an arithmetic expression is read alike if a wrong one is passed over alike. -/
theorem tracks_readArithmetic_of (abreast : Abreast reach same live ρ)
    (skips : Tracks live ρ Eq Analysis.skip Analysis.skip) {scan partner : ArithmeticScan}
    (scans : ArithmeticScan.Same same scan partner) :
    Tracks live ρ (Option.Rel (ArithmeticScan.Same same)) (readArithmetic scan)
      (readArithmetic partner) := by
  have ended : Tracks live ρ (Option.Rel (ArithmeticScan.Same same)) (pure none) (pure none) :=
    tracks_pure .none
  have accepted {result other : ArithmeticScan} (results : ArithmeticScan.Same same result other) :
      Tracks live ρ (Option.Rel (ArithmeticScan.Same same))
        (do
          accept
          return some result)
        (do
          accept
          return some other) :=
    tracks_then abreast.tracks_accept fun _ => tracks_pure (.some results)
  have afterOperand : ArithmeticScan.Same same { scan with preceding := .operand }
      { partner with preceding := .operand } :=
    ⟨.operand, scans.depth_eq, scans.crossed_eq, scans.sound_eq⟩
  have operand := tracks_ite partner.preceding.complete ended (accepted afterOperand)
  refine tracks_bind abreast.refl abreast.tracks_current @fun token other alike => ?_
  obtain ⟨value_eq, category_eq, _⟩ := abreast.alike alike
  simp only [abreast.is_eq alike, value_eq, category_eq, scans.preceding.complete_eq]
  split
  · exact operand
  · exact operand
  · refine tracks_ite _ (tracks_ite _ ended (accepted ?_)) ?_
    · exact ⟨.opening, congrArg (· + 1) scans.depth_eq, scans.crossed_eq, scans.sound_eq⟩
    refine tracks_ite _ ?_ (tracks_ite _ ?_ (tracks_ite _ ended ?_))
    · exact tracks_bind abreast.refl_scan
        (abreast.tracks_closeParenthesis alike scans) fun closed => tracks_pure (.some closed)
    · exact tracks_bind abreast.refl_scan
        (abreast.tracks_readOperator alike scans) fun read => tracks_pure (.some read)
    · refine tracks_bind abreast.refl_scan
        (abreast.tracks_complain alike _ scans) fun complained => ?_
      refine tracks_then skips fun _ => tracks_pure (.some ?_)
      exact ⟨.operator .none, complained.depth_eq, complained.crossed_eq, complained.sound_eq⟩
  · exact ended

theorem tracks_readArithmetic (abreast : Abreast (reach + 1) same live ρ)
    {scan partner : ArithmeticScan} (scans : ArithmeticScan.Same same scan partner) :
    Tracks live ρ (Option.Rel (ArithmeticScan.Same same)) (readArithmetic scan)
      (readArithmetic partner) :=
  abreast.tracks_readArithmetic_of abreast.tracks_skip scans

theorem tracks_arithmeticEnd (abreast : Abreast reach same live ρ) {first second : Token}
    (begins : same first second) {scan partner : ArithmeticScan}
    (scans : ArithmeticScan.Same same scan partner) :
    Tracks live ρ Eq (arithmeticEnd first scan) (arithmeticEnd second partner) := by
  have balance {scan partner : ArithmeticScan} (scans : ArithmeticScan.Same same scan partner) :
      Tracks live ρ Eq
        (if scan.crossed || scan.depth != 0 then
          complain first .unbalancedArithmetic scan >>= fun scan => pure scan.sound
        else pure scan >>= fun scan => pure scan.sound)
        (if partner.crossed || partner.depth != 0 then
          complain second .unbalancedArithmetic partner >>= fun scan => pure scan.sound
        else pure partner >>= fun scan => pure scan.sound) := by
    have told {scan partner : ArithmeticScan} (scans : ArithmeticScan.Same same scan partner) :
        Tracks live ρ Eq (pure scan.sound) (pure partner.sound) :=
      tracks_pure scans.sound_eq
    rw [scans.crossed_eq, scans.depth_eq]
    apply tracks_ite
    · exact tracks_bind abreast.refl_scan (abreast.tracks_complain begins _ scans) told
    · exact tracks_bind abreast.refl_scan (tracks_pure scans) told
  unfold arithmeticEnd
  by_cases started : scan.preceding = .start
  · rw [if_pos started, if_pos (scans.preceding.start_iff.mp started)]
    refine tracks_then (abreast.tracks_reportHere _) fun _ => ?_
    exact tracks_bind abreast.refl_scan
      (tracks_pure ⟨scans.preceding, scans.depth_eq, scans.crossed_eq, rfl⟩) balance
  · rw [if_neg started, if_neg fun also => started (scans.preceding.start_iff.mpr also)]
    exact tracks_bind abreast.refl_scan (abreast.tracks_complainOfTrailing scans) balance

theorem tracks_arithmeticLoop (abreast : Abreast reach same live ρ)
    (skips : Tracks live ρ Eq Analysis.skip Analysis.skip) {scan partner : ArithmeticScan}
    (scans : ArithmeticScan.Same same scan partner) :
    Tracks live ρ (ArithmeticScan.Same same) (loop readArithmetic scan)
      (loop readArithmetic partner) :=
  abreast.tracks_loop abreast.refl_scan (abreast.tracks_readArithmetic_of skips) scans

/-- An arithmetic expression is read alike if a wrong token in it is passed over alike. -/
theorem tracks_arithmetic_of (abreast : Abreast reach same live ρ)
    (skips : Tracks live ρ Eq Analysis.skip Analysis.skip) :
    Tracks live ρ Eq arithmetic arithmetic := by
  rw [arithmetic_eq]
  refine tracks_bind abreast.refl abreast.tracks_current fun begins => ?_
  refine tracks_bind abreast.refl_scan (abreast.tracks_arithmeticLoop skips ?_) fun scans => ?_
  · exact ⟨.start, rfl, rfl, rfl⟩
  · exact abreast.tracks_arithmeticEnd begins scans

theorem tracks_arithmetic (abreast : Abreast (reach + 1) same live ρ) :
    Tracks live ρ Eq arithmetic arithmetic :=
  abreast.tracks_arithmetic_of abreast.tracks_skip

/-- An arithmetic expression that begins with an identifier accepts it. -/
theorem alive_of_arithmetic (abreast : Abreast (reach + 1) same live ρ) {state : State}
    (named : state.current.category = .identifier) (alive : live (arithmetic state).2) :
    live (state.emit state.current).skip := by
  refine Classical.byContradiction fun dead => dead ?_
  have mortal : Mortal live := ⟨_, dead⟩
  have round : readArithmetic {} state =
      (some { preceding := .operand }, (state.emit state.current).skip) := by
    rw [readArithmetic, run_bind, run_current, named]
    rfl
  have scanned : live (loop readArithmetic {} state).2 :=
    (abreast.tracks_arithmeticEnd (abreast.refl mortal _) (abreast.refl_scan mortal _)).alive
      alive
  rw [loop_eq, round] at scanned
  dsimp only at scanned
  split at scanned
  · exact (abreast.tracks_arithmeticLoop abreast.tracks_skip
      (abreast.refl_scan mortal _)).alive scanned
  · exact scanned

end Abreast

end CobolCheck
