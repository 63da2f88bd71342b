import CobolCheck.Proofs.Analysis.Forked
import CobolCheck.Proofs.Analysis.Further

/-!
# Texts that part

Two texts have a beginning in common. Then one of them goes on with one landmark and the
other one with another, and what comes behind these may differ as well. As long as both
landmarks are ahead, runs over the two texts stay side by side, if the looks that come
near do not tell the landmarks from each other. Such looks are `blind`: the answer to a
test is decided before the landmarks, or each landmark decides it in the same way.

Nothing is said of the two runs once something has been reported, or once the first one
has passed its landmark.
-/

namespace CobolCheck

open Analysis

/-! ## Looks near two landmarks -/

namespace Test

/-- Whether a test looks at no token beyond an offset. -/
def sees (offset : Nat) : Test → Bool
  | word place _ => place.ble offset
  | category place _ => place.ble offset
  | not test => test.sees offset
  | and first second => first.sees offset && second.sees offset
  | or first second => first.sees offset && second.sees offset
  | _ => true

/-- The answer to a test, if a landmark that is so many tokens away decides it. -/
def answer? (landmark : Landmark) (distance : Nat) : Test → Option Bool
  | word place words =>
      if place = distance then some (words.contains landmark.word) else none
  | category place categories =>
      if place = distance then some (categories.contains landmark.category) else none
  | .context expected => if distance = 0 then some (landmark.context == expected) else none
  | endMarker => if distance = 0 then some (Word.isEndMarker landmark.word) else none
  | subordinate =>
      if distance = 0 then
        some (landmark.category == .numeric && Level.isSubordinate landmark.word)
      else none
  | not test => (test.answer? landmark distance).map (!·)
  | and first second =>
      match first.answer? landmark distance, second.answer? landmark distance with
      | some false, _ => some false
      | _, some false => some false
      | some true, some true => some true
      | _, _ => none
  | or first second =>
      match first.answer? landmark distance, second.answer? landmark distance with
      | some true, _ => some true
      | _, some true => some true
      | some false, some false => some false
      | _, _ => none

/-- Whether a test has the same answer where one landmark is so many tokens away and where
another one is, if all that comes before them is the same. -/
def agrees (landmark other : Landmark) (distance : Nat) (test : Test) : Bool :=
  (test.answer? landmark distance).isSome &&
      test.answer? landmark distance == test.answer? other distance ||
    match test with
    | word place _ => place.blt distance
    | category place _ => place.blt distance
    | not test => test.agrees landmark other distance
    | and first second =>
        first.agrees landmark other distance && second.agrees landmark other distance
    | or first second =>
        first.agrees landmark other distance && second.agrees landmark other distance
    | .context _ | endMarker | subordinate => Nat.blt 0 distance

/-- Whether a test never tells two landmarks from each other. -/
def blind (landmark other : Landmark) (test : Test) : Bool :=
  test.sees 2 && [0, 1, 2].all fun distance => test.agrees landmark other distance

variable {landmark other : Landmark} {distance near : Nat} {test : Test}

/-- An answer that a landmark decides is given where the landmark is. -/
theorem holds_of_answer? {state : State} {answer : Bool}
    (known : test.answer? landmark distance = some answer)
    (marks : landmark.Marks (state.lookahead distance)) : test.holds state = answer := by
  obtain ⟨value_eq, category_eq, context_eq⟩ := marks
  induction test generalizing answer with
  | word place words | category place categories | context expected | endMarker | subordinate =>
      simp only [answer?, Option.ite_none_right_eq_some, Option.some.injEq] at known
      obtain ⟨rfl, rfl⟩ := known
      simp only [holds, State.current, value_eq, category_eq, context_eq]
  | not test ih =>
      obtain ⟨inside, decided, rfl⟩ := Option.map_eq_some_iff.mp known
      rw [holds_not, ih decided]
  | and first second ihFirst ihSecond =>
      rw [answer?] at known
      rw [holds_and]
      split at known
      · next decided =>
        cases known
        rw [ihFirst decided, Bool.false_and]
      · next decided _ =>
        cases known
        rw [ihSecond decided, Bool.and_false]
      · next decided also =>
        cases known
        rw [ihFirst decided, ihSecond also, Bool.and_self]
      · cases known
  | or first second ihFirst ihSecond =>
      rw [answer?] at known
      rw [holds_or]
      split at known
      · next decided =>
        cases known
        rw [ihFirst decided, Bool.true_or]
      · next decided _ =>
        cases known
        rw [ihSecond decided, Bool.or_true]
      · next decided also =>
        cases known
        rw [ihFirst decided, ihSecond also, Bool.or_self]
      · cases known

/-- What a test does not look at cannot matter to it. -/
theorem agrees_of_sees (sees : test.sees near = true) (before : near < distance) :
    test.agrees landmark other distance = true := by
  induction test with
  | word place words | category place categories =>
      have early := Nat.lt_of_le_of_lt (Nat.le_of_ble_eq_true sees) before
      rw [agrees, Nat.blt_eq.mpr early, Bool.or_true]
  | context expected | endMarker | subordinate =>
      rw [agrees, Nat.blt_eq.mpr (Nat.zero_lt_of_lt before), Bool.or_true]
  | not test ih => rw [agrees, ih sees, Bool.or_true]
  | and first second ihFirst ihSecond | or first second ihFirst ihSecond =>
      rw [Test.sees, Bool.and_eq_true] at sees
      rw [agrees, ihFirst sees.1, ihSecond sees.2, Bool.and_self, Bool.or_true]

theorem agrees_of_blind (blind : test.blind landmark other = true) (distance : Nat) :
    test.agrees landmark other distance = true := by
  rw [Test.blind, Bool.and_eq_true, List.all_eq_true] at blind
  by_cases close : distance ∈ [0, 1, 2]
  · exact blind.2 distance close
  · refine agrees_of_sees blind.1 ?_
    simp only [List.mem_cons, List.not_mem_nil, or_false] at close
    omega

/-- Two states whose texts part at landmarks give a test on which these agree the same
answer. -/
theorem holds_eq_of_agrees {first second : State}
    (agrees : test.agrees landmark other distance = true)
    (marks : landmark.Marks (first.lookahead distance))
    (otherMarks : other.Marks (second.lookahead distance))
    (same : ∀ offset < distance, second.lookahead offset = first.lookahead offset) :
    test.holds first = test.holds second := by
  have decided {test : Test} (alike : ((test.answer? landmark distance).isSome &&
      test.answer? landmark distance == test.answer? other distance) = true) :
      test.holds first = test.holds second := by
    rw [Bool.and_eq_true, Option.isSome_iff_exists, beq_iff_eq] at alike
    obtain ⟨⟨answer, known⟩, alike⟩ := alike
    rw [holds_of_answer? known marks, holds_of_answer? (alike.symm.trans known) otherMarks]
  induction test with
  | word place words | category place categories =>
      rw [Test.agrees, Bool.or_eq_true, Nat.blt_eq] at agrees
      exact agrees.elim decided fun early => by rw [holds, holds, same place early]
  | context expected | endMarker | subordinate =>
      rw [Test.agrees, Bool.or_eq_true, Nat.blt_eq] at agrees
      exact agrees.elim decided fun early => by
        rw [holds, holds, State.current, State.current, same 0 early]
  | not test ih =>
      rw [Test.agrees, Bool.or_eq_true] at agrees
      exact agrees.elim decided fun inside => by rw [holds_not, holds_not, ih inside]
  | and guard rest ihGuard ihRest =>
      rw [Test.agrees, Bool.or_eq_true, Bool.and_eq_true (guard.agrees _ _ _)] at agrees
      refine agrees.elim decided fun inside => ?_
      rw [holds_and, holds_and, ihGuard inside.1, ihRest inside.2]
  | or guard rest ihGuard ihRest =>
      rw [Test.agrees, Bool.or_eq_true, Bool.and_eq_true (guard.agrees _ _ _)] at agrees
      refine agrees.elim decided fun inside => ?_
      rw [holds_or, holds_or, ihGuard inside.1, ihRest inside.2]

end Test

/-! ## States of both texts -/

namespace State

/-- Whether two states are at the same place before their texts part. There one of them goes
on with one token and the other one with another. -/
def Parted (stop other : Token) (tail graft : List Token) (first second : State) : Prop :=
  ∃ common, Forks common (stop :: tail) (other :: graft) first second

variable {token stop other : Token} {common tail graft : List Token} {first second : State}

/-- A state that has passed a token does not await it. -/
theorem not_awaits_of_remaining_le {state : State} (passed : remaining state ≤ tail.length) :
    ¬ Awaits (stop :: tail) state :=
  fun awaits => Nat.not_succ_le_self _ (Nat.le_trans awaits.2.length_le passed)

theorem Awaits.of_skipped {before after : State} (reports : before.reports <:+ after.reports)
    (ahead_eq : after.ahead = before.ahead.tail) (awaits : Awaits tail after) :
    Awaits tail before := by
  refine ⟨List.suffix_nil.mp (awaits.1 ▸ reports), ?_⟩
  have passed := awaits.2
  rw [ahead_eq] at passed
  exact passed.trans (List.tail_suffix _)

theorem forks_append_iff : Forks (common ++ [stop]) tail graft first second ↔
    Forks common (stop :: tail) (stop :: graft) first second := by
  have ahead (rest : List Token) : common ++ [stop] ++ rest = common ++ stop :: rest :=
    List.append_assoc _ _ _
  constructor
  · intro forks
    have before := forks.first_ahead
    have after := forks.second_ahead
    rw [ahead] at before after
    exact { forks with first_ahead := before, second_ahead := after }
  · intro forks
    have before := forks.first_ahead
    have after := forks.second_ahead
    rw [← ahead] at before after
    exact { forks with first_ahead := before, second_ahead := after }

/-- The last token in common is one at which both texts go on in the same way. -/
theorem approaches_eq_parted : Approaches stop tail graft = Parted stop stop tail graft := by
  funext first second
  exact propext (exists_congr fun _ => forks_append_iff)

theorem Forks.parted (forks : Forks common (stop :: tail) (other :: graft) first second) :
    Parted stop other tail graft first second :=
  ⟨common, forks⟩

theorem Forks.current (forks : Forks (token :: common) tail graft first second) :
    second.current = first.current :=
  forks.lookahead (Nat.zero_lt_succ _)

theorem Forks.lookahead_first (forks : Forks common (stop :: tail) (other :: graft) first second) :
    first.lookahead common.length = stop := by
  simp [State.lookahead, forks.first_ahead]

theorem Forks.lookahead_second (forks : Forks common (stop :: tail) (other :: graft) first second) :
    second.lookahead common.length = other := by
  simp [State.lookahead, forks.second_ahead]

/-- A test on which two landmarks agree has the same answer where the texts part so far away. -/
theorem Forks.holds_eq {landmark otherLandmark : Landmark} {test : Test}
    (forks : Forks common (stop :: tail) (other :: graft) first second)
    (marks : landmark.Marks stop) (otherMarks : otherLandmark.Marks other)
    (agrees : test.agrees landmark otherLandmark common.length = true) :
    test.holds first = test.holds second :=
  Test.holds_eq_of_agrees agrees (forks.lookahead_first ▸ marks)
    (forks.lookahead_second ▸ otherMarks) fun _ => forks.lookahead

/-- A term of a condition that begins before the texts part ends there at the latest. -/
theorem Forks.reading_eq
    (forks : Forks (token :: common) (stop :: tail) (other :: graft) first second)
    (foreign : stop.value ∉ connectives) (otherForeign : other.value ∉ connectives)
    (afterOperand : Bool) :
    (Analysis.reading afterOperand first).1 = (Analysis.reading afterOperand second).1 := by
  simp only [Analysis.reading, forks.current, forks.first_ahead, forks.second_ahead,
    List.cons_append, List.drop_succ_cons, List.drop_zero, List.map_take, List.map_append,
    List.map_cons]
  rw [Reading.ofWords_take_append foreign, Reading.ofWords_take_append otherForeign]

end State

open State

/-- Whether two runs of an analysis stay side by side up to where their texts part. -/
abbrev Analysis.Concurs {α : Type} (stop other : Token) (tail graft : List Token)
    (analysis : Analysis α) : Prop :=
  Tracks (Awaits (stop :: tail)) (Parted stop other tail graft) Eq analysis analysis

/-- Two runs that concur up to the last token in common stay side by side before it. -/
theorem Analysis.tracks_approaches {α : Type} {stop : Token} {tail graft : List Token}
    {analysis : Analysis α} (concurs : Concurs stop stop tail graft analysis) :
    Tracks (Awaits (stop :: tail)) (Approaches stop tail graft) Eq analysis analysis := by
  rwa [approaches_eq_parted]

theorem Analysis.concurs_of_approaches {α : Type} {stop : Token} {tail graft : List Token}
    {analysis : Analysis α}
    (tracked : Tracks (Awaits (stop :: tail)) (Approaches stop tail graft) Eq analysis analysis) :
    Concurs stop stop tail graft analysis := by
  rwa [approaches_eq_parted] at tracked

theorem inStep_parted (stop other : Token) (tail graft : List Token) :
    InStep (Parted stop other tail graft) := by
  rintro first second third fourth ⟨common, forks⟩ ⟨later, further⟩
  rw [remaining, remaining, remaining, remaining, forks.first_ahead, forks.second_ahead,
    further.first_ahead, further.second_ahead]
  simp only [List.length_append, List.length_cons]
  omega

namespace Analysis

variable {stop other : Token} {tail graft : List Token} {landmark otherLandmark : Landmark}
  {α : Type}

/-! ## Looking and moving -/

theorem concurs_ask (marks : landmark.Marks stop) (otherMarks : otherLandmark.Marks other)
    {test : Test} (blind : test.blind landmark otherLandmark = true) :
    Concurs stop other tail graft (ask test) :=
  tracks_view fun ⟨_, forks⟩ => forks.holds_eq marks otherMarks (Test.agrees_of_blind blind _)

/-- What passes over one token passes over a token that both texts have in common, unless the
first run passes its landmark. -/
theorem concurs_of_passing {analysis : Analysis α}
    (ahead_eq : ∀ state, (analysis state).2.ahead = state.ahead.tail)
    (reports : ∀ state, state.reports <:+ (analysis state).2.reports)
    (same : ∀ {token common first second},
      Forks (token :: common) (stop :: tail) (other :: graft) first second →
        (analysis first).1 = (analysis second).1 ∧
          Forks common (stop :: tail) (other :: graft) (analysis first).2 (analysis second).2) :
    Concurs stop other tail graft analysis where
  alive awaits := awaits.of_skipped (reports _) (ahead_eq _)
  tracks := by
    rintro first second ⟨common, forks⟩ awaits
    cases common with
    | nil =>
        refine absurd awaits (not_awaits_of_remaining_le ?_)
        rw [remaining, ahead_eq, forks.first_ahead]
        exact Nat.le_refl _
    | cons token common =>
        obtain ⟨results, further⟩ := same forks
        exact ⟨results, common, further⟩

theorem concurs_skip : Concurs stop other tail graft Analysis.skip :=
  concurs_of_passing ahead_skip (fun state => (later_skip state).reports) fun forks =>
    ⟨rfl, forks.skip⟩

theorem concurs_accept : Concurs stop other tail graft accept := by
  refine concurs_of_passing (fun _ => ahead_skip _)
    (fun state => (later_emit_skip _ state).reports)
    fun {token common first second} forks => ⟨rfl, ?_⟩
  change Forks _ _ _ (first.emit first.current).skip (second.emit second.current).skip
  rw [forks.current]
  exact (forks.emit _).skip

/-- A token is matched, or it is reported and passed over. -/
theorem concurs_of_matching {analysis : Analysis α} {test : Test}
    (inside : test.within 0 = true) (matched : Token → Token) {cause : Cause} {found missed : α}
    (run : ∀ state, analysis state =
      if test.holds state then (found, (state.emit (matched state.current)).skip)
      else (missed, (state.report state.current cause).skip)) :
    Concurs stop other tail graft analysis := by
  refine concurs_of_passing (fun state => ?_) (fun state => ?_) fun {token common first second} forks => ?_
  · rw [run]
    split <;> exact ahead_skip _
  · rw [run]
    split
    · exact (later_emit_skip _ state).reports
    · exact ((later_report _ _ state).trans (later_skip _)).reports
  · have here := forks.current.symm
    have text (offset : Nat) (near : offset ≤ 0) :
        (first.lookahead offset).value = (second.lookahead offset).value := by
      obtain rfl := Nat.le_zero.mp near
      exact congrArg Token.value here
    have held : test.holds first = test.holds second :=
      Test.holds_eq_of_looks (congrArg Token.category here) (congrArg Token.context here)
        (fun _ => text) inside text
    rw [run, run, ← held, forks.current]
    split
    · exact ⟨rfl, (forks.emit _).skip⟩
    · exact ⟨rfl, (forks.report _ _).skip⟩

theorem concurs_acceptIf {test : Test} (inside : test.within 0 = true) (cause : Cause) :
    Concurs stop other tail graft (acceptIf test cause) :=
  concurs_of_matching inside id (run_acceptIf test cause)

theorem concurs_expect (literal : String) : Concurs stop other tail graft (expect literal) :=
  tracks_discard (concurs_acceptIf rfl _)

theorem concurs_operand (categories : List Category) (description : String) :
    Concurs stop other tail graft (operand categories description) :=
  concurs_acceptIf rfl _

theorem concurs_choose (literals : List String) (category : Option Category) :
    Concurs stop other tail graft (choose literals category) := by
  have run (state : State) : choose literals category state =
      if (Test.isAny literals).holds state then
        ((), (state.emit ((category.map state.current.retag).getD state.current)).skip)
      else ((), (state.report state.current (.expectedOneOf literals)).skip) := by
    rw [choose.eq_def, run_bind, run_ask, run_ite]
    cases category <;> rfl
  exact concurs_of_matching rfl (fun token => (category.map token.retag).getD token) run

theorem concurs_reportHere (cause : Cause) : Concurs stop other tail graft (reportHere cause) :=
  tracks_of_reports (fun _ => List.cons_ne_nil _ _) _

theorem concurs_acceptMany (count : Nat) : Concurs stop other tail graft (acceptMany count) := by
  induction count with
  | zero => exact tracks_same ()
  | succ count ih => exact tracks_then concurs_accept fun _ => ih

/-- What begins with the token at the cursor concurs if it does so for every token, and where
the texts part. -/
theorem concurs_current_bind {next : Token → Analysis α}
    (rest : ∀ token, Concurs stop other tail graft (next token))
    (ends : ∀ {first second}, Forks [] (stop :: tail) (other :: graft) first second →
      Awaits (stop :: tail) (next stop first).2 → (next stop first).1 = (next other second).1 ∧
        Parted stop other tail graft (next stop first).2 (next other second).2) :
    Concurs stop other tail graft (current >>= next) where
  alive := (rest _).alive
  tracks := by
    rintro first second ⟨common, forks⟩ awaits
    rw [run_bind, run_current] at awaits ⊢
    rw [run_bind, run_current]
    cases common with
    | nil =>
        rw [current_of_ahead_cons forks.first_ahead] at awaits ⊢
        rw [current_of_ahead_cons forks.second_ahead]
        exact ends forks awaits
    | cons token common =>
        rw [forks.current]
        exact (rest _).tracks forks.parted awaits

end Analysis

end CobolCheck
