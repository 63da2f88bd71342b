import CobolCheck.Proofs.Brackets

/-!
# Scopes that are passed over

A scope that is nested too deeply is passed over word by word. Only the IF
statements in it are counted, so it is passed over as a whole if its tokens are
bracketed and no other statement has an END marker in it.
-/

namespace CobolCheck

namespace State

/-- The state after passing over as many tokens as there are in a list. -/
def pass : List Token → State → State
  | [], state => state
  | _ :: rest, state => pass rest state.skip

theorem pass_append (front rest : List Token) (state : State) :
    pass (front ++ rest) state = pass rest (pass front state) := by
  induction front generalizing state with
  | nil => rfl
  | cons token front ih => exact ih state.skip

/-- Passing over the tokens ahead moves them behind the cursor and changes nothing else. -/
theorem pass_eq {read rest : List Token} {state : State} (ahead_eq : state.ahead = read ++ rest) :
    state.pass read = { state with behind := read.reverse ++ state.behind, ahead := rest } := by
  induction read generalizing state with
  | nil =>
      rw [List.nil_append] at ahead_eq
      rw [pass, ← ahead_eq]
      rfl
  | cons token read ih =>
      have next := skip_of_ahead_cons ahead_eq
      have skipped : state.skip.ahead = read ++ rest := by rw [next]; rfl
      rw [pass, ih skipped, next]
      simp

theorem ahead_pass {read rest : List Token} {state : State}
    (ahead_eq : state.ahead = read ++ rest) : (state.pass read).ahead = rest := by
  rw [pass_eq ahead_eq]

end State

namespace Analysis

/-- Passes over one token of a scope, unless the scope ends before it. -/
def skipRound (depth : Nat) : Analysis (Option Nat) := do
  if ← ask (scopeEnd depth) then return none
  else
    let next := openIfs depth (← word)
    skip
    return some next

theorem run_skipRound (depth : Nat) (state : State) :
    skipRound depth state =
      if (scopeEnd depth).holds state then (none, state)
      else (some (openIfs depth state.current.value), state.skip) := by
  rw [skipRound, run_bind, run_ask, run_ite]
  rfl

/-- A scope ends at the end of the input, at a period and, where no IF statement is open, at the
next word that belongs to the statement around it. -/
theorem holds_scopeEnd_iff (depth : Nat) (state : State) :
    (scopeEnd depth).holds state = true ↔
      state.current.category = .eof ∨ state.current.value = "." ∨
        depth = 0 ∧ (state.current.value = "ELSE" ∨ Word.isEndMarker state.current.value = true) := by
  unfold scopeEnd
  dsimp only
  split
  · next outermost =>
    rw [Test.holds_or, Test.holds_or, Test.holds_or, Bool.or_eq_true, Bool.or_eq_true,
      Bool.or_eq_true, Test.holds_eof_iff, Test.holds_is_iff, Test.holds_is_iff, or_assoc]
    simp only [outermost, true_and]
    rfl
  · next within =>
    rw [Test.holds_or, Bool.or_eq_true, Test.holds_eof_iff, Test.holds_is_iff]
    simp only [within, false_and, or_false]

theorem loop_skipRound_of_holds {depth : Nat} {state : State}
    (ends : (scopeEnd depth).holds state = true) :
    loop skipRound depth state = (depth, state) := by
  rw [loop_eq, run_skipRound, if_pos ends]

/-- A round that does not end the scope passes over a token. -/
theorem skipRound_of_not_holds {depth : Nat} {state : State} {token : Token} {rest : List Token}
    (ahead_eq : state.ahead = token :: rest) (inside : (scopeEnd depth).holds state = false) :
    skipRound depth state = (some (openIfs depth token.value), state.skip) ∧
      remaining state.skip < remaining state := by
  constructor
  · rw [run_skipRound, if_neg (Bool.eq_false_iff.mp inside), State.current_of_ahead_cons ahead_eq]
  · rw [remaining, remaining, State.ahead_skip, ahead_eq]
    exact Nat.lt_succ_self _

theorem loop_skipRound_of_not_holds {depth : Nat} {state : State} {token : Token}
    {rest : List Token} (ahead_eq : state.ahead = token :: rest)
    (inside : (scopeEnd depth).holds state = false) :
    loop skipRound depth state = loop skipRound (openIfs depth token.value) state.skip := by
  obtain ⟨round, moved⟩ := skipRound_of_not_holds ahead_eq inside
  rw [loop_eq, round]
  exact if_pos moved

end Analysis

open Analysis

/-- Whether a token is neither the end of the input nor the END marker of a statement
other than IF. -/
def Token.Passable (token : Token) : Prop :=
  token.category ≠ .eof ∧ (Word.isEndMarker token.value = true → token.value = "END-IF")

/-- Whether passing over some tokens of a scope leaves as many IF statements open as before. -/
def Skips (read : List Token) : Prop :=
  ∀ (depth : Nat) (state : State) (rest : List Token), state.ahead = read ++ rest →
    loop skipRound depth state = loop skipRound depth (state.pass read)

theorem Skips.append {front rest : List Token} (first : Skips front) (second : Skips rest) :
    Skips (front ++ rest) := by
  intro depth state more ahead_eq
  rw [List.append_assoc] at ahead_eq
  rw [first depth state _ ahead_eq, State.pass_append]
  exact second depth _ more (State.ahead_pass ahead_eq)

/-- A token in a scope does not end it, unless it is a period or belongs to the
statement around the scope. -/
theorem holds_scopeEnd_eq_false {state : State} {token : Token} {rest : List Token}
    (ahead_eq : state.ahead = token :: rest) (passable : token.Passable) (depth : Nat)
    (period : token.value ≠ ".")
    (inside : depth = 0 → token.value ≠ "ELSE" ∧ token.value ≠ "END-IF") :
    (scopeEnd depth).holds state = false := by
  rw [Bool.eq_false_iff, Ne, holds_scopeEnd_iff, State.current_of_ahead_cons ahead_eq]
  rintro (ended | stop | ⟨outermost, divides | marker⟩)
  · exact passable.1 ended
  · exact period stop
  · exact (inside outermost).1 divides
  · exact (inside outermost).2 (passable.2 marker)

/-- What is passed over in one step. -/
theorem loop_skipRound_cons {state : State} {token : Token} {rest : List Token}
    (ahead_eq : state.ahead = token :: rest) (passable : token.Passable) (depth : Nat)
    (period : token.value ≠ ".")
    (inside : depth = 0 → token.value ≠ "ELSE" ∧ token.value ≠ "END-IF") :
    loop skipRound depth state = loop skipRound (openIfs depth token.value) state.skip :=
  loop_skipRound_of_not_holds ahead_eq
    (holds_scopeEnd_eq_false ahead_eq passable depth period inside)

theorem skips_plain {token : Token} (passable : token.Passable)
    (other : token.value ∉ "." :: bracketWords) : Skips [token] := by
  intro depth state rest ahead_eq
  simp only [bracketWords, List.mem_cons, List.not_mem_nil, or_false, not_or] at other
  obtain ⟨period, opens, divides, closes⟩ := other
  have same : openIfs depth token.value = depth := by
    rw [openIfs, if_neg opens, if_neg closes]
  rw [loop_skipRound_cons ahead_eq passable depth period fun _ => ⟨divides, closes⟩, same]
  rfl

/-- The words of an IF statement are passed over together with its branches. -/
theorem skips_pair {opening closing : Token} {body : List Token} (opens : opening.value = "IF")
    (closes : closing.value = "END-IF") (begins : opening.Passable) (ends : closing.Passable)
    (inside : ∀ (depth : Nat) (state : State) (rest : List Token), state.ahead = body ++ rest →
      loop skipRound (depth + 1) state = loop skipRound (depth + 1) (state.pass body)) :
    Skips (opening :: (body ++ [closing])) := by
  intro depth state rest ahead_eq
  rw [List.cons_append, List.append_assoc] at ahead_eq
  have opened : openIfs depth opening.value = depth + 1 := by rw [openIfs, if_pos opens]
  have closed : openIfs (depth + 1) closing.value = depth := by
    rw [openIfs, closes, if_neg (by decide), if_pos rfl, Nat.add_sub_cancel]
  have after : state.skip.ahead = body ++ ([closing] ++ rest) := by
    rw [State.ahead_skip, ahead_eq]
    rfl
  rw [loop_skipRound_cons ahead_eq begins depth (by simp [opens]) (fun _ => by simp [opens]),
    opened, inside depth state.skip _ after,
    loop_skipRound_cons (State.ahead_pass after) ends (depth + 1) (by simp [closes]) (by simp),
    closed, State.pass, State.pass_append]
  rfl

/-- Bracketed tokens are passed over as a whole. -/
theorem Bracketed.skips {depth : Nat} {read : List Token} (pairs : Bracketed depth read)
    (passable : ∀ token ∈ read, token.Passable) : Skips read := by
  induction pairs with
  | nil => exact fun _ _ _ _ => rfl
  | plain other => exact skips_plain (passable _ List.mem_cons_self) other
  | append _ _ ihFirst ihSecond =>
      rw [List.forall_mem_append] at passable
      exact (ihFirst passable.1).append (ihSecond passable.2)
  | @ifThen depth opening closing body opens _ closes ih =>
      rw [List.forall_mem_cons, List.forall_mem_append, List.forall_mem_singleton] at passable
      obtain ⟨begins, inside, ends⟩ := passable
      exact skips_pair opens closes begins ends fun outer => ih inside (outer + 1)
  | @ifElse depth opening middle closing body other opens _ divides _ closes ihBody ihOther =>
      have split : body ++ middle :: (other ++ [closing]) =
          (body ++ middle :: other) ++ [closing] := by
        rw [List.append_assoc, List.cons_append]
      rw [split] at passable ⊢
      rw [List.forall_mem_cons, List.forall_mem_append, List.forall_mem_append,
        List.forall_mem_cons, List.forall_mem_singleton] at passable
      obtain ⟨begins, ⟨inside, between, outside⟩, ends⟩ := passable
      refine skips_pair opens closes begins ends fun outer state rest ahead_eq => ?_
      rw [List.append_assoc] at ahead_eq
      have passed := State.ahead_pass ahead_eq
      have same : openIfs (outer + 1) middle.value = outer + 1 := by
        rw [openIfs, divides, if_neg (by decide), if_neg (by decide)]
      rw [ihBody inside (outer + 1) state _ ahead_eq,
        loop_skipRound_cons passed between (outer + 1) (by simp [divides]) (by simp), same,
        ihOther outside (outer + 1) _ rest (by rw [State.ahead_skip, passed]; rfl),
        State.pass_append]
      rfl

end CobolCheck
