import CobolCheck.Proofs.Analysis.Parted
import CobolCheck.Proofs.Expression.Parallel
import CobolCheck.Proofs.Expression.Scan

/-!
# Expressions in texts that part

A condition ends where its text parts, or it goes on beyond that. An arithmetic expression
ends there. What is read of either before is the same in both texts, since no term of several
words goes on beyond a word that cannot belong to one.
-/

namespace CobolCheck

open Analysis State

namespace Analysis

variable {stop other : Token} {tail graft : List Token} {landmark otherLandmark : Landmark}
  {delimiter : String}

/-! ## Conditions -/

/-- Whether a condition ends at the second of two landmarks, and is not read on alike only
where the first run passes the first one. -/
def conditionBlind (landmark other : Landmark) (delimiter : String) : Bool :=
  (conditionEnd delimiter).sees 2 &&
    [1, 2].all (fun distance => (conditionEnd delimiter).agrees landmark other distance) &&
      (other.endsCondition delimiter && !connectives.contains landmark.word)

/-- Whether an operand ends before the next term of a condition, of whose terms the latest
comes first. -/
def afterOperand (terms : List Term) : Bool :=
  (terms.head?.map fun term => term.role.endsOperand).getD false

theorem run_readTerm (delimiter : String) (terms : List Term) (state : State) :
    readTerm delimiter terms state =
      if (conditionEnd delimiter).holds state then (none, state)
      else
        (some (((reading (afterOperand terms) state).1.term? state.current).toList ++ terms),
          (acceptMany (reading (afterOperand terms) state).1.count state).2) := by
  rw [readTerm, run_bind, run_ask, run_ite]
  rfl

theorem agrees_of_conditionBlind (blind : conditionBlind landmark otherLandmark delimiter = true)
    {distance : Nat} (positive : 0 < distance) :
    (conditionEnd delimiter).agrees landmark otherLandmark distance = true := by
  rw [conditionBlind, Bool.and_eq_true, Bool.and_eq_true, List.all_eq_true] at blind
  by_cases close : distance ∈ [1, 2]
  · exact blind.1.2 distance close
  · refine Test.agrees_of_sees blind.1.1 ?_
    simp only [List.mem_cons, List.not_mem_nil, or_false] at close
    omega

/-- A term of a condition is read alike, unless the first run passes its landmark. -/
theorem concurs_readTerm (marks : landmark.Marks stop)
    (otherMarks : otherLandmark.Marks other)
    (blind : conditionBlind landmark otherLandmark delimiter = true) (terms : List Term) :
    Concurs stop other tail graft (readTerm delimiter terms) := by
  have parts := blind
  rw [conditionBlind, Bool.and_eq_true, Bool.and_eq_true (otherLandmark.endsCondition _)] at parts
  obtain ⟨-, ends, foreign⟩ := parts
  have otherForeign := (Bool.and_eq_true_iff.mp ends).2
  rw [Bool.not_eq_true', ← Bool.not_eq_true, List.contains_iff_mem] at foreign otherForeign
  have accepts (count : Nat) : Concurs stop other tail graft (acceptMany count) :=
    concurs_acceptMany count
  constructor
  · intro state awaits
    rw [run_readTerm] at awaits
    split at awaits
    · exact awaits
    · exact (accepts _).alive awaits
  · rintro first second ⟨common, forks⟩ awaits
    rw [run_readTerm] at awaits ⊢
    rw [run_readTerm]
    cases common with
    | nil =>
        have here : second.current = other := current_of_ahead_cons forks.second_ahead
        have ended : (conditionEnd delimiter).holds second = true := by
          rw [← Bool.not_eq_false]
          exact fun unended => Guarded.not_marks_of_not_conditionEnd ends unended (here ▸ otherMarks)
        rw [if_pos ended]
        split at awaits
        · next held =>
          rw [if_pos held]
          exact ⟨rfl, forks.parted⟩
        · -- the landmark would be the first word of a term
          refine absurd awaits (not_awaits_of_remaining_le ?_)
          have positive : 1 ≤ (reading (afterOperand terms) first).1.count :=
            Reading.one_le_count _ _ _
          have passed := (further_acceptMany (reading (afterOperand terms) first).1.count
            first).remaining_le
          have begun : remaining first = tail.length + 1 := by
            rw [remaining, forks.first_ahead]
            rfl
          exact Nat.le_trans passed (by omega)
    | cons token common =>
        have held := forks.holds_eq marks otherMarks
          (agrees_of_conditionBlind blind (Nat.zero_lt_succ common.length))
        have read := forks.reading_eq (marks.1 ▸ foreign) (otherMarks.1 ▸ otherForeign)
          (afterOperand terms)
        rw [← held, ← read, forks.current]
        split at awaits
        · next ended =>
          rw [if_pos ended, if_pos ended]
          exact ⟨rfl, forks.parted⟩
        · next goesOn =>
          rw [if_neg goesOn, if_neg goesOn]
          exact ⟨rfl, ((accepts _).tracks forks.parted awaits).2⟩

/-- A condition is reported, or nothing is done where it is judged. -/
theorem judgeCondition_cases (terms : List Term) :
    (∀ first state, (judgeCondition first terms state).2.reports ≠ []) ∨
      ∀ first, judgeCondition first terms = pure () := by
  unfold judgeCondition
  cases terms.isEmpty with
  | true => exact .inl fun _ _ => List.cons_ne_nil _ _
  | false =>
      cases Term.fault? (Term.postorder terms) with
      | none =>
          cases Term.balanced terms with
          | true => exact .inr fun _ => rfl
          | false => exact .inl fun _ _ => List.cons_ne_nil _ _
      | some token =>
          cases Term.balanced terms <;> exact .inl fun _ _ => List.cons_ne_nil _ _

theorem concurs_condition (marks : landmark.Marks stop)
    (otherMarks : otherLandmark.Marks other)
    (blind : conditionBlind landmark otherLandmark delimiter = true) :
    Concurs stop other tail graft (condition delimiter) := by
  have begins : Tracks (Awaits (stop :: tail)) (Parted stop other tail graft)
      (fun _ _ => True) current current := tracks_view fun _ => trivial
  refine tracks_bind (fun _ _ => trivial) begins fun {first second} _ => ?_
  apply tracks_then
  · exact tracks_then ((inStep_parted _ _ _ _).tracks_loop_same
      (concurs_readTerm marks otherMarks blind) []) fun _ => tracks_same _
  · intro terms
    rcases judgeCondition_cases terms with reported | silent
    · exact tracks_of_reports (reported first) _
    · rw [silent, silent]
      exact tracks_same ()

/-! ## Arithmetic expressions -/

/-- Whether an arithmetic expression ends before a landmark without a report of it. -/
def closesArithmetic (landmark : Landmark) : Bool :=
  match landmark.category with
  | .identifier | .numeric => false
  | .symbol => landmark.word == "."
  | _ => true

theorem next?_eq_none_of_marks {token : Token} (closes : closesArithmetic landmark = true)
    (marks : landmark.Marks token) (scan : ArithmeticScan) : scan.next? token = none := by
  obtain ⟨value_eq, category_eq, -⟩ := marks
  rw [closesArithmetic] at closes
  rw [ArithmeticScan.next?, category_eq]
  cases category : landmark.category with
  | identifier | numeric =>
      rw [category] at closes
      cases closes
  | symbol =>
      rw [category] at closes
      have period : token.value = "." := value_eq.trans (beq_iff_eq.mp closes)
      simp [Token.is, period, isArithmeticOperator]
  | _ => rfl

theorem concurs_complain (token : Token) (problem : Problem) (scan : ArithmeticScan) :
    Concurs stop other tail graft (complain token problem scan) :=
  tracks_of_reports (fun _ => List.cons_ne_nil _ _) _

theorem concurs_complainOfTrailing (scan : ArithmeticScan) :
    Concurs stop other tail graft (complainOfTrailing scan) := by
  unfold complainOfTrailing
  split
  · exact concurs_complain _ _ scan
  · exact tracks_same scan

/-- A token is accepted, whatever the scan of the expression is then. -/
theorem concurs_accepted {α β : Type} {begin : Analysis α} (result : α → β)
    (begins : Concurs stop other tail graft begin) :
    Concurs stop other tail graft (begin >>= fun value => accept >>= fun _ => pure (result value)) :=
  tracks_then begins fun _ => tracks_then concurs_accept fun _ => tracks_same _

theorem concurs_closeParenthesis (token : Token) (scan : ArithmeticScan) :
    Concurs stop other tail graft (closeParenthesis token scan) := by
  unfold closeParenthesis
  dsimp only
  split
  · exact concurs_accepted _ (concurs_complain _ _ scan)
  · exact concurs_accepted _ (concurs_complainOfTrailing scan)

theorem concurs_readOperator (token : Token) (scan : ArithmeticScan) :
    Concurs stop other tail graft (readOperator token scan) := by
  have complained (problem : Problem) : Concurs stop other tail graft
      (complain token problem scan >>= fun scan => accept >>= fun _ =>
        pure { scan with preceding := .operator (some token) }) :=
    concurs_accepted _ (concurs_complain token problem scan)
  have silent : Concurs stop other tail graft (pure scan >>= fun scan => accept >>= fun _ =>
        pure { scan with preceding := .operator (some token) }) :=
    concurs_accepted _ (tracks_same scan)
  unfold readOperator
  dsimp only
  split
  · exact complained _
  · exact tracks_ite _ (complained _) silent
  · exact tracks_ite _ (complained _) silent
  · exact silent

/-- A token of an arithmetic expression is read alike, and the expression ends at both
landmarks. -/
theorem concurs_readArithmetic (marks : landmark.Marks stop)
    (otherMarks : otherLandmark.Marks other) (closes : closesArithmetic landmark = true)
    (otherCloses : closesArithmetic otherLandmark = true) (scan : ArithmeticScan) :
    Concurs stop other tail graft (readArithmetic scan) := by
  have ended : Concurs stop other tail graft (pure none : Analysis (Option ArithmeticScan)) :=
    tracks_same none
  have accepted (result : ArithmeticScan) :
      Concurs stop other tail graft (accept >>= fun _ => pure (some result)) :=
    tracks_then concurs_accept fun _ => tracks_same _
  have operand := tracks_ite scan.preceding.complete ended
    (accepted { scan with preceding := .operand })
  refine concurs_current_bind (fun token => ?_) fun {first second} forks awaits => ?_
  · split
    · exact operand
    · exact operand
    · refine tracks_ite _ (tracks_ite _ ended (accepted _)) ?_
      refine tracks_ite _ ?_ (tracks_ite _ ?_ (tracks_ite _ ended ?_))
      · exact tracks_then (concurs_closeParenthesis token scan) fun _ => tracks_same _
      · exact tracks_then (concurs_readOperator token scan) fun _ => tracks_same _
      · exact tracks_then (concurs_complain token _ scan) fun _ =>
          tracks_then concurs_skip fun _ => tracks_same _
    · exact ended
  · have here : first.current = stop := current_of_ahead_cons forks.first_ahead
    have there : second.current = other := current_of_ahead_cons forks.second_ahead
    have stays := readArithmetic_of_none (here ▸ next?_eq_none_of_marks closes marks scan)
    have alsoStays := readArithmetic_of_none
      (there ▸ next?_eq_none_of_marks otherCloses otherMarks scan)
    rw [readArithmetic, run_bind, run_current, here] at stays
    rw [readArithmetic, run_bind, run_current, there] at alsoStays
    rw [stays, alsoStays]
    exact ⟨rfl, forks.parted⟩

/-- Something is reported of an arithmetic expression at its end, or it tells what it has
read. -/
theorem arithmeticEnd_cases (scan : ArithmeticScan) :
    (∀ first state, (arithmeticEnd first scan state).2.reports ≠ []) ∨
      ∀ first, arithmeticEnd first scan = pure scan.sound := by
  obtain ⟨preceding, depth, crossed, sound⟩ := scan
  cases crossed <;> cases depth <;> rcases preceding with _ | _ | (_ | operator) | _ | _ <;>
    first
      | exact .inr fun _ => rfl
      | exact .inl fun _ _ => List.cons_ne_nil _ _

theorem concurs_arithmetic (marks : landmark.Marks stop)
    (otherMarks : otherLandmark.Marks other) (closes : closesArithmetic landmark = true)
    (otherCloses : closesArithmetic otherLandmark = true) :
    Concurs stop other tail graft arithmetic := by
  have begins : Tracks (Awaits (stop :: tail)) (Parted stop other tail graft)
      (fun _ _ => True) current current := tracks_view fun _ => trivial
  have round := @concurs_readArithmetic _ _ tail graft _ _ marks otherMarks closes otherCloses
  rw [arithmetic_eq]
  refine tracks_bind (fun _ _ => trivial) begins fun {first second} _ => ?_
  refine tracks_then ((inStep_parted _ _ _ _).tracks_loop_same round {}) fun scan => ?_
  rcases arithmeticEnd_cases scan with reported | silent
  · exact tracks_of_reports (reported first) _
  · rw [silent, silent]
    exact tracks_same _

end Analysis

end CobolCheck
