import Mathlib.Data.Nat.Find
import CobolCheck.Proofs.Statement.Skipped

/-!
# The end of a scope that is passed over

A scope that is nested too deeply is passed over with a counter of the IF statements that are open
in it. The counter is lowered at END-IF without a look at its value: what keeps it from being
lowered at zero is that outside of all IF statements every END marker ends the scope. So wherever
the cursor comes, the counter is the number of the words IF passed over less that of the words
END-IF, and the scope ends at the first place where this number and the token there say so.
-/

namespace CobolCheck

open Analysis State

/-! ## Counting IF statements -/

/-- By how many the words IF are more than the words END-IF. -/
def ifBalance (read : List Token) : Int :=
  read.countP (·.is "IF") - read.countP (·.is "END-IF")

@[simp]
theorem ifBalance_nil : ifBalance [] = 0 :=
  rfl

theorem ifBalance_append (front rest : List Token) :
    ifBalance (front ++ rest) = ifBalance front + ifBalance rest := by
  simp only [ifBalance, List.countP_append]
  omega

/-- A counter that is above zero at END-IF counts the IF statements that are open. -/
theorem openIfs_eq {depth : Nat} {token : Token} (above : token.value = "END-IF" → 0 < depth) :
    (openIfs depth token.value : Int) = depth + ifBalance [token] := by
  unfold openIfs ifBalance
  by_cases opens : token.value = "IF"
  · simp [Token.is, opens]
  · by_cases closes : token.value = "END-IF"
    · have positive := above closes
      simp [Token.is, closes]
      omega
    · simp [Token.is, opens, closes]

/-! ## The place -/

/-- Whether a scope in which `depth` IF statements are open before some tokens ends at a place
among these: past the last of them, at an end of the input, at a period, and where no IF statement
is open at ELSE and at an END marker. -/
def ScopeEndsAt (depth : Nat) (tokens : List Token) (place : Nat) : Prop :=
  ∀ token ∈ tokens[place]?, token.category = .eof ∨ token.value = "." ∨
    depth + ifBalance (tokens.take place) = 0 ∧
      (token.value = "ELSE" ∨ "END-".toList <+: token.value.toList)

instance (depth : Nat) (tokens : List Token) : DecidablePred (ScopeEndsAt depth tokens) :=
  fun place => inferInstanceAs (Decidable (∀ token ∈ tokens[place]?, _))

variable {depth counter first : Nat} {token : Token} {tokens rest : List Token}
  {state : State}

theorem scopeEndsAt_length (depth : Nat) (tokens : List Token) :
    ScopeEndsAt depth tokens tokens.length := by
  simp [ScopeEndsAt]

theorem exists_first_scopeEnd (depth : Nat) (tokens : List Token) :
    ∃ place, ScopeEndsAt depth tokens place ∧
      ∀ earlier < place, ¬ ScopeEndsAt depth tokens earlier := by
  have exists_end : ∃ place, ScopeEndsAt depth tokens place :=
    ⟨_, scopeEndsAt_length depth tokens⟩
  exact ⟨Nat.find exists_end, Nat.find_spec exists_end, fun _ => Nat.find_min exists_end⟩

/-- What has been passed over matters only by the number of IF statements that it leaves open. -/
theorem scopeEndsAt_add_iff (place : Nat)
    (counts : (counter : Int) = depth + ifBalance (tokens.take first)) :
    ScopeEndsAt depth tokens (first + place) ↔ ScopeEndsAt counter (tokens.drop first) place := by
  simp only [ScopeEndsAt, List.getElem?_drop, List.take_add, ifBalance_append, counts,
    Int.add_assoc]

/-- The test at the cursor tells whether the scope ends there. -/
theorem scopeEndsAt_zero_iff (ahead_eq : state.ahead = token :: rest) :
    ScopeEndsAt depth state.ahead 0 ↔ (scopeEnd depth).holds state = true := by
  rw [holds_scopeEnd_iff, current_of_ahead_cons ahead_eq, Word.isEndMarker,
    List.isPrefixOf_iff_prefix, ScopeEndsAt, ahead_eq]
  simp

/-- Outside of all IF statements the scope ends before END-IF. -/
theorem pos_of_not_scopeEndsAt (inside : ¬ ScopeEndsAt depth (token :: rest) 0)
    (closes : token.value = "END-IF") : 0 < depth := by
  refine Nat.pos_of_ne_zero fun outermost => inside fun other here => ?_
  obtain rfl : token = other := by simpa using here
  refine .inr (.inr ⟨by simp [outermost], .inr ?_⟩)
  rw [closes]
  decide

/-! ## The way there -/

theorem ahead_pass_take (count : Nat) (state : State) :
    (state.pass (state.ahead.take count)).ahead = state.ahead.drop count :=
  ahead_pass (List.take_append_drop count state.ahead).symm

/-- As long as the scope does not end, every round passes over one token, and the counter is the
number of IF statements that are open. -/
theorem exists_counter_of_rounds {rounds : Nat}
    (inside : ∀ earlier < rounds, ¬ ScopeEndsAt depth state.ahead earlier) :
    let passed := state.ahead.take rounds
    ∃ counter : Nat, loopFor skipRound rounds depth state = (counter, state.pass passed) ∧
      loop skipRound depth state = loop skipRound counter (state.pass passed) ∧
      counter = depth + ifBalance passed := by
  -- the first round leads to another state and counter, from which the other rounds begin
  induction rounds generalizing depth state with
  | zero => exact ⟨depth, rfl, rfl, by simp⟩
  | succ rounds ih =>
      have here := inside 0 (Nat.zero_lt_succ rounds)
      cases ahead_eq : state.ahead with
      | nil => exact absurd (ahead_eq ▸ scopeEndsAt_length depth []) here
      | cons token rest =>
          have within : (scopeEnd depth).holds state = false :=
            Bool.eq_false_iff.mpr (mt (scopeEndsAt_zero_iff ahead_eq).mpr here)
          have opened := openIfs_eq (pos_of_not_scopeEndsAt (ahead_eq ▸ here))
          have skipped : state.skip.ahead = rest := by
            rw [ahead_skip, ahead_eq, List.tail_cons]
          have later : ∀ earlier < rounds,
              ¬ ScopeEndsAt (openIfs depth token.value) state.skip.ahead earlier := by
            intro earlier fewer
            have further := inside (1 + earlier) (by omega)
            rwa [ahead_eq, scopeEndsAt_add_iff earlier opened, List.drop_one, List.tail_cons,
              ← skipped] at further
          obtain ⟨counter, reached, continued, counts⟩ := ih later
          obtain ⟨round, moved⟩ := skipRound_of_not_holds ahead_eq within
          rw [skipped] at reached continued counts
          refine ⟨counter, ?_, ?_, ?_⟩
          · rw [loopFor, round]
            exact (if_pos moved).trans reached
          · exact (loop_skipRound_of_not_holds ahead_eq within).trans continued
          · have both := ifBalance_append [token] (rest.take rounds)
            rw [List.singleton_append] at both
            rw [counts, opened, List.take_succ_cons, both, Int.add_assoc]

/-- Where the scope ends the cursor stays. -/
theorem loop_skipRound_of_scopeEndsAt (ends : ScopeEndsAt counter state.ahead 0) :
    (loop skipRound counter state).2 = state := by
  cases ahead_eq : state.ahead with
  | nil =>
      by_cases held : (scopeEnd counter).holds state = true
      · rw [loop_skipRound_of_holds held]
      · rw [loop_eq, run_skipRound, if_neg held, skip_of_ahead_nil ahead_eq]
        exact congrArg Prod.snd (if_neg (Nat.lt_irrefl _))
  | cons token rest =>
      rw [loop_skipRound_of_holds ((scopeEndsAt_zero_iff ahead_eq).mp ends)]

/-- A scope that is passed over ends at the first place among the tokens ahead where it may end,
past the last of them at the latest. The cursor is moved there, and nothing else is changed. On
the way every round passes over one token. The counter is the number of the words IF passed over
less that of the words END-IF, so this is never negative, and the counter is above zero wherever
END-IF lowers it. -/
theorem skipScope_stops (state : State) :
    skipScope = discard (loop skipRound 0) ∧
    ∃ place, ScopeEndsAt 0 state.ahead place ∧
      (∀ earlier < place, ¬ ScopeEndsAt 0 state.ahead earlier) ∧
      skipScope state = ((), { state with
        behind := (state.ahead.take place).reverse ++ state.behind
        ahead := state.ahead.drop place }) ∧
      ∀ rounds ≤ place, ∃ counter : Nat,
        let reached := state.pass (state.ahead.take rounds)
        loopFor skipRound rounds 0 state = (counter, reached) ∧
          counter = ifBalance (state.ahead.take rounds) ∧
          (rounds < place → reached.current.value = "END-IF" → 0 < counter) := by
  obtain ⟨place, stops, inside⟩ := exists_first_scopeEnd 0 state.ahead
  refine ⟨rfl, place, stops, inside, ?_, fun rounds fewer => ?_⟩
  · obtain ⟨counter, -, continued, counts⟩ := exists_counter_of_rounds inside
    have ends := (scopeEndsAt_add_iff 0 counts).mp stops
    rw [← ahead_pass_take] at ends
    change ((), (loop skipRound 0 state).2) = _
    rw [continued, loop_skipRound_of_scopeEndsAt ends,
      pass_eq (List.take_append_drop _ state.ahead).symm]
  · obtain ⟨counter, reached, -, counts⟩ :=
      exists_counter_of_rounds fun earlier less => inside earlier (Nat.lt_of_lt_of_le less fewer)
    refine ⟨counter, reached, by simpa using counts, fun before closes => ?_⟩
    have here := mt (scopeEndsAt_add_iff 0 counts).mpr (inside rounds before)
    cases ahead_eq : state.ahead.drop rounds with
    | nil => exact absurd (ahead_eq ▸ scopeEndsAt_length counter []) here
    | cons token rest =>
        rw [current_of_ahead_cons ((ahead_pass_take rounds state).trans ahead_eq)] at closes
        exact pos_of_not_scopeEndsAt (ahead_eq ▸ here) closes

/-- Within an IF statement neither ELSE nor the END marker of another statement ends the scope. -/
example :
    let begun := State.initial (Source.tokenize "IF A END-ADD ELSE B END-IF C END-ADD") .empty
    (skipScope begun).2.behind.length = 7 := by
  rfl

end CobolCheck
