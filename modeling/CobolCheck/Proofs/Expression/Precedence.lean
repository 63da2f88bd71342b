import CobolCheck.Proofs.Expression.Condition

/-!
# Precedence

The postorder of a condition is found without a tree, from the precedence of
its operators alone. It is nevertheless the postorder of a tree. A tree is well
formed if it has parentheses wherever precedence would group its terms
otherwise, and written down term by term it is put into its own postorder.

An operator waits until all of its right operand has been read. What waits at
the end of a tree is therefore the operators on its right spine, and the main
induction follows these: every operator of the tree leaves alone what waited
before it, and takes what waits of its left operand.
-/

namespace CobolCheck.Term

/-- An expression tree. The operators come with their precedence. -/
inductive Tree where
  | operand (token : Token)
  /-- A subtree in parentheses. -/
  | group (opening closing : Token) (inner : Tree)
  /-- A test after what it tests. -/
  | test (token : Token) (tested : Tree)
  /-- An operator before its operand. -/
  | unary (token : Token) (precedence : Nat) (child : Tree)
  /-- An operator between two operands. -/
  | binary (token : Token) (precedence : Nat) (left right : Tree)

namespace Tree

/-! ## Trees and their terms -/

/-- Whether a tree is something a test may be applied to. -/
def IsPrimary : Tree → Prop
  | operand _ => True
  | group _ _ _ => True
  | test _ _ => True
  | unary _ _ _ => False
  | binary _ _ _ _ => False

instance : DecidablePred IsPrimary
  | operand _ | group _ _ _ | test _ _ => inferInstanceAs (Decidable True)
  | unary _ _ _ | binary _ _ _ _ => inferInstanceAs (Decidable False)

/-- The precedence of the binary operator at the root of a tree that is not in
parentheses. -/
def precedence? : Tree → Option Nat
  | binary _ precedence _ _ => some precedence
  | _ => none

/-- The precedences of the unary operators on the right spine of a tree. -/
def trailing : Tree → List Nat
  | unary _ precedence child => precedence :: child.trailing
  | binary _ _ _ right => right.trailing
  | _ => []

/-- The precedences of the binary operators on the left spine of a tree. -/
def leading : Tree → List Nat
  | binary _ precedence left _ => precedence :: left.leading
  | _ => []

section Associativity

variable (rightAssociative : Nat → Bool)

/-- Whether an operator of precedence `other` may be an operand, on a given
side, of one of precedence `precedence`: it binds more tightly, or as tightly
and to that side. -/
def Binds (precedence : Nat) (right : Bool) (other : Nat) : Prop :=
  precedence < other ∨ other = precedence ∧ rightAssociative precedence = right

/-- Whether a tree has parentheses wherever precedence asks for them. -/
def WellFormed : Tree → Prop
  | operand _ => True
  | group _ _ inner => inner.WellFormed
  | test _ tested => tested.IsPrimary ∧ tested.WellFormed
  | unary _ precedence child =>
      (∀ other ∈ child.precedence?, precedence < other) ∧ child.WellFormed
  | binary _ precedence left right =>
      (∀ other ∈ left.precedence?, Binds rightAssociative precedence false other) ∧
        (∀ other ∈ left.trailing, precedence ≤ other) ∧
        (∀ other ∈ right.precedence?, Binds rightAssociative precedence true other) ∧
        left.WellFormed ∧ right.WellFormed

/-- The term of a binary operator. -/
def operator (token : Token) (precedence : Nat) : Term :=
  ⟨.binary precedence (rightAssociative precedence), token⟩

/-- The terms of a tree in the order in which they are written. -/
def written : Tree → List Term
  | operand token => [⟨.operand, token⟩]
  | group opening closing inner => ⟨.opening, opening⟩ :: (inner.written ++ [⟨.closing, closing⟩])
  | test token tested => tested.written ++ [⟨.classTest, token⟩]
  | unary token precedence child => ⟨.unary precedence, token⟩ :: child.written
  | binary token precedence left right =>
      left.written ++ operator rightAssociative token precedence :: right.written

/-- The terms of a tree in postorder, without its parentheses. -/
def listing : Tree → List Term
  | operand token => [⟨.operand, token⟩]
  | group _ _ inner => inner.listing
  | test token tested => tested.listing ++ [⟨.classTest, token⟩]
  | unary token precedence child => child.listing ++ [⟨.unary precedence, token⟩]
  | binary token precedence left right =>
      left.listing ++ right.listing ++ [operator rightAssociative token precedence]

/-- The operators that wait when all of a tree has been read, the innermost first. -/
def pending : Tree → List Term
  | unary token precedence child => child.pending ++ [⟨.unary precedence, token⟩]
  | binary token precedence _ right =>
      right.pending ++ [operator rightAssociative token precedence]
  | _ => []

/-- The terms that have been put into order when all of a tree has been read. -/
def emitted : Tree → List Term
  | unary _ _ child => child.emitted
  | binary _ _ left right => left.listing rightAssociative ++ right.emitted
  | tree => tree.listing rightAssociative

instance (precedence : Nat) (right : Bool) (other : Nat) :
    Decidable (Binds rightAssociative precedence right other) :=
  inferInstanceAs (Decidable (_ ∨ _))

/-- Trees are checked for their parentheses part by part. -/
instance decidableWellFormed : (tree : Tree) → Decidable (tree.WellFormed rightAssociative)
  | operand _ => inferInstanceAs (Decidable True)
  | group _ _ inner => decidableWellFormed inner
  | test _ tested =>
      have := decidableWellFormed tested
      inferInstanceAs (Decidable (_ ∧ _))
  | unary _ _ child =>
      have := decidableWellFormed child
      inferInstanceAs (Decidable (_ ∧ _))
  | binary _ _ left right =>
      have := decidableWellFormed left
      have := decidableWellFormed right
      inferInstanceAs (Decidable (_ ∧ _ ∧ _ ∧ _ ∧ _))

variable {rightAssociative}

theorem emitted_append_pending (tree : Tree) :
    tree.emitted rightAssociative ++ tree.pending rightAssociative =
      tree.listing rightAssociative := by
  induction tree with
  | operand token => simp [emitted, pending]
  | group opening closing inner => simp [emitted, pending]
  | test token tested => simp [emitted, pending]
  | unary token precedence child ih =>
      rw [emitted, pending, listing, ← ih, List.append_assoc]
  | binary token precedence left right _ ih =>
      rw [emitted, pending, listing, ← ih]
      simp only [List.append_assoc]

theorem IsPrimary.pending_eq_nil {tree : Tree} (primary : tree.IsPrimary) :
    tree.pending rightAssociative = [] := by
  cases tree with
  | operand | group | test => rfl
  | unary | binary => exact primary.elim

theorem IsPrimary.leading_eq_nil {tree : Tree} (primary : tree.IsPrimary) :
    tree.leading = [] := by
  cases tree with
  | operand | group | test => rfl
  | unary | binary => exact primary.elim

/-! ## Reading a tree -/

theorem Binds.of_le {precedence other further : Nat} {right : Bool}
    (binds : Binds rightAssociative precedence right other) (more : other ≤ further) :
    Binds rightAssociative precedence right further := by
  rcases Nat.eq_or_lt_of_le more with rfl | less
  · exact binds
  · rcases binds with tighter | ⟨rfl, _⟩
    · exact .inl (Nat.lt_trans tighter less)
    · exact .inl less

theorem Binds.le {precedence other : Nat} {right : Bool}
    (binds : Binds rightAssociative precedence right other) : precedence ≤ other := by
  rcases binds with tighter | ⟨rfl, _⟩
  · exact Nat.le_of_lt tighter
  · exact Nat.le_refl _

/-- The operators on the left spine bind at least as tightly as the root, so
that a lower bound for the root holds of them all. -/
theorem WellFormed.forall_mem_leading {tree : Tree} (formed : tree.WellFormed rightAssociative)
    {P : Nat → Prop} (upward : ∀ {less more}, P less → less ≤ more → P more)
    (root : ∀ other ∈ tree.precedence?, P other) : ∀ other ∈ tree.leading, P other := by
  induction tree with
  | operand | group | test | unary =>
      intro other member
      cases member
  | binary token precedence left right ih _ =>
      obtain ⟨binds, _, _, formedLeft, _⟩ := formed
      have own : P precedence := root precedence rfl
      refine List.forall_mem_cons.mpr ⟨own, ih formedLeft fun other atLeft => ?_⟩
      exact upward own (binds other atLeft).le

/-- A binary operator takes all that waits of its left operand. -/
theorem WellFormed.precedes_of_mem_pending {tree : Tree}
    (formed : tree.WellFormed rightAssociative) {precedence : Nat}
    (below : ∀ other ∈ tree.precedence?, Binds rightAssociative precedence false other)
    (spine : ∀ other ∈ tree.trailing, precedence ≤ other) :
    ∀ term ∈ tree.pending rightAssociative,
      precedes precedence (rightAssociative precedence) term = true := by
  induction tree with
  | operand | group | test =>
      intro term waits
      cases waits
  | unary token own child ih =>
      obtain ⟨tighter, formedChild⟩ := formed
      obtain ⟨least, spineChild⟩ := List.forall_mem_cons.mp spine
      intro term waits
      rcases List.mem_append.mp waits with inner | last
      · refine ih formedChild (fun other root => .inl ?_) spineChild term inner
        exact Nat.lt_of_le_of_lt least (tighter other root)
      · rw [List.mem_singleton.mp last]
        simpa [precedes] using least
  | binary token own left right _ ih =>
      obtain ⟨_, _, tighter, _, formedRight⟩ := formed
      have binds := below own rfl
      intro term waits
      rcases List.mem_append.mp waits with inner | last
      · exact ih formedRight (fun other root => binds.of_le (tighter other root).le) spine
          term inner
      · rw [List.mem_singleton.mp last]
        rcases binds with more | ⟨rfl, left⟩
        · simp [precedes, operator, more]
        · simp [precedes, operator, left]

variable (rightAssociative) in
/-- Whether a binary operator of some precedence takes none of the waiting terms. -/
def Stays (waiting : List Term) (precedence : Nat) : Prop :=
  ∀ term ∈ waiting.head?, precedes precedence (rightAssociative precedence) term = false

/-- An operator takes what is pending and stops at what stays. -/
theorem Stays.takeWhile_append {waiting above : List Term} {precedence : Nat}
    (stays : Stays rightAssociative waiting precedence)
    (taken : ∀ term ∈ above, precedes precedence (rightAssociative precedence) term = true) :
    (above ++ waiting).takeWhile (precedes precedence (rightAssociative precedence)) = above ∧
      (above ++ waiting).dropWhile (precedes precedence (rightAssociative precedence)) =
        waiting := by
  rw [List.takeWhile_append_of_pos taken, List.dropWhile_append_of_pos taken]
  cases waiting with
  | nil => simp
  | cons term rest =>
      have first := stays term rfl
      simp [first]

/-- What is pending at the end of a tree is no parenthesis. -/
theorem role_of_mem_pending {tree : Tree} :
    ∀ term ∈ tree.pending rightAssociative, (term.role != .opening) = true := by
  induction tree with
  | operand | group | test =>
      intro term waits
      cases waits
  | unary token precedence child ih =>
      intro term waits
      rcases List.mem_append.mp waits with inner | last
      · exact ih term inner
      · rw [List.mem_singleton.mp last]
        rfl
  | binary token precedence left right _ ih =>
      intro term waits
      rcases List.mem_append.mp waits with inner | last
      · exact ih term inner
      · rw [List.mem_singleton.mp last]
        rfl

/-- Once a tree has been read, the operators of its right spine wait above what
waited before it, if no operator on its left spine takes any of that. -/
theorem WellFormed.postorderFrom_append {tree : Tree} (formed : tree.WellFormed rightAssociative)
    {waiting : List Term} (stays : ∀ other ∈ tree.leading, Stays rightAssociative waiting other)
    (rest : List Term) :
    postorderFrom waiting (tree.written rightAssociative ++ rest) =
      tree.emitted rightAssociative ++
        postorderFrom (tree.pending rightAssociative ++ waiting) rest := by
  induction tree generalizing waiting rest with
  | operand token => simp [written, emitted, listing, pending, postorderFrom]
  | group opening closing inner ih =>
      have above : ∀ other ∈ inner.leading,
          Stays rightAssociative (⟨.opening, opening⟩ :: waiting) other := by
        intro _ _ term first
        cases first
        rfl
      have inside := ih formed above (⟨.closing, closing⟩ :: rest)
      simp only [written, List.cons_append, List.append_assoc, List.nil_append, postorderFrom]
      rw [inside, postorderFrom]
      simp only [List.takeWhile_append_of_pos role_of_mem_pending,
        List.dropWhile_append_of_pos role_of_mem_pending]
      simp [emitted, pending, listing, ← emitted_append_pending]
  | test token tested ih =>
      obtain ⟨primary, formedTested⟩ := formed
      have none (other : Nat) (member : other ∈ tested.leading) :
          Stays rightAssociative waiting other := by
        rw [primary.leading_eq_nil] at member
        cases member
      have inside := ih formedTested none (⟨.classTest, token⟩ :: rest)
      simp only [written, List.append_assoc, List.singleton_append]
      rw [inside, postorderFrom]
      simp [emitted, pending, listing, ← emitted_append_pending, primary.pending_eq_nil]
  | unary token precedence child ih =>
      obtain ⟨tighter, formedChild⟩ := formed
      have above :=
        formedChild.forall_mem_leading (P := (precedence < ·)) Nat.lt_of_lt_of_le tighter
      have stops (other : Nat) (member : other ∈ child.leading) :
          Stays rightAssociative (⟨.unary precedence, token⟩ :: waiting) other := by
        intro term first
        cases first
        simpa [precedes] using above other member
      have inside := ih formedChild stops rest
      simp only [written, List.cons_append, postorderFrom]
      rw [inside]
      simp [emitted, pending]
  | binary token precedence left right ihLeft ihRight =>
      obtain ⟨binds, spine, bindsRight, formedLeft, formedRight⟩ := formed
      obtain ⟨own, lefts⟩ := List.forall_mem_cons.mp stays
      have taken := formedLeft.precedes_of_mem_pending binds spine
      obtain ⟨popped, kept⟩ := own.takeWhile_append taken
      have above := formedRight.forall_mem_leading Binds.of_le bindsRight
      have stops (other : Nat) (member : other ∈ right.leading) :
          Stays rightAssociative (operator rightAssociative token precedence :: waiting) other := by
        intro term first
        cases first
        rcases above other member with more | ⟨rfl, toTheRight⟩
        · have looser : ¬ other < precedence ∧ precedence ≠ other := by omega
          simp [precedes, operator, looser]
        · simp [precedes, operator, toTheRight]
      have first := ihLeft formedLeft lefts
        (operator rightAssociative token precedence :: (right.written rightAssociative ++ rest))
      have second := ihRight formedRight stops rest
      simp only [written, List.append_assoc, List.cons_append]
      rw [first, postorderFrom]
      simp only [operator] at second ⊢
      rw [popped, kept, second]
      simp [emitted, pending, operator, ← emitted_append_pending]

/-! ## Accepting a tree -/

theorem written_ne_nil (tree : Tree) : tree.written rightAssociative ≠ [] := by
  cases tree <;> simp [written]

/-- The terms of a tree leave one value in postorder. -/
theorem reduces_listing (tree : Tree) : Reduces (tree.listing rightAssociative) := by
  induction tree with
  | operand token => exact .operand rfl
  | group opening closing inner ih => exact ih
  | test token tested ih => exact .test rfl ih
  | unary token precedence child ih => exact .unary ⟨precedence, rfl⟩ ih
  | binary token precedence left right ihLeft ihRight =>
      exact .binary ⟨precedence, rightAssociative precedence, rfl⟩ ihLeft ihRight

/-- The parentheses of a tree match. -/
theorem balancedFrom_append (tree : Tree) (depth : Nat) (rest : List Term) :
    balancedFrom depth (tree.written rightAssociative ++ rest) = balancedFrom depth rest := by
  induction tree generalizing depth rest with
  | operand token => simp [written, balancedFrom]
  | group opening closing inner ih => simp [written, balancedFrom, ih]
  | test token tested ih => simp [written, balancedFrom, ih]
  | unary token precedence child ih => simp [written, balancedFrom, ih]
  | binary token precedence left right ihLeft ihRight =>
      simp [written, operator, balancedFrom, ihLeft, ihRight]

/-- A well-formed tree is put into its own postorder, in which every operator
finds its operands, and a condition with the terms of such a tree is accepted. -/
theorem WellFormed.postorder_written {tree : Tree} (formed : tree.WellFormed rightAssociative) :
    postorder (tree.written rightAssociative) = tree.listing rightAssociative ∧
      fault? (postorder (tree.written rightAssociative)) = none ∧
      ∀ delimiter state,
        Analysis.collected delimiter state = tree.written rightAssociative →
          Analysis.Accepted delimiter state := by
  have free (other : Nat) : Stays rightAssociative [] other := fun _ first => nomatch first
  have ordered : postorder (tree.written rightAssociative) = tree.listing rightAssociative := by
    have read := formed.postorderFrom_append (fun other _ => free other) []
    rw [List.append_nil, List.append_nil] at read
    rw [postorder, read, postorderFrom, List.filter_eq_self.mpr role_of_mem_pending,
      emitted_append_pending]
  have faultless : fault? (postorder (tree.written rightAssociative)) = none := by
    rw [ordered]
    exact tree.reduces_listing.fault?_eq_none
  refine ⟨ordered, faultless, fun delimiter state terms => ?_⟩
  rw [Analysis.accepted_iff, terms]
  have matched : balancedFrom 0 (tree.written rightAssociative ++ []) = balancedFrom 0 [] :=
    tree.balancedFrom_append 0 []
  rw [List.append_nil] at matched
  exact ⟨tree.written_ne_nil, matched, faultless⟩

end Associativity

/-- A tree that has a place for every kind of operator. -/
def mixedTree : Tree :=
  .binary ⟨"OR", .reserved, .plain, 1, 21⟩ 0
    (.unary ⟨"NOT", .reserved, .plain, 1, 1⟩ 2
      (.binary ⟨"<", .symbol, .plain, 1, 17⟩ 3
        (.binary ⟨"**", .symbol, .plain, 1, 7⟩ 6
          (.operand ⟨"A", .identifier, .plain, 1, 5⟩)
          (.binary ⟨"**", .symbol, .plain, 1, 12⟩ 6
            (.operand ⟨"B", .identifier, .plain, 1, 10⟩)
            (.operand ⟨"C", .identifier, .plain, 1, 15⟩)))
        (.operand ⟨"D", .identifier, .plain, 1, 19⟩)))
    (.binary ⟨"AND", .reserved, .plain, 1, 32⟩ 1
      (.group ⟨"(", .symbol, .plain, 1, 24⟩ ⟨")", .symbol, .plain, 1, 30⟩
        (.binary ⟨">", .symbol, .plain, 1, 27⟩ 3
          (.operand ⟨"E", .identifier, .plain, 1, 25⟩)
          (.operand ⟨"F", .identifier, .plain, 1, 29⟩)))
      (.test ⟨"NUMERIC", .reserved, .plain, 1, 38⟩
        (.operand ⟨"G", .identifier, .plain, 1, 36⟩)))

/-- The condition of which the tree is made is accepted. -/
theorem postorder_written_mixedTree :
    mixedTree.WellFormed (· == 6) ∧
      Analysis.Accepted "THEN"
        (State.initial
          (Source.tokenize "NOT A ** B ** C < D OR (E > F) AND G NUMERIC THEN CONTINUE END-IF.")
          .empty) := by
  have formed : mixedTree.WellFormed (· == 6) := by decide
  exact ⟨formed, formed.postorder_written.2.2 _ _ (by decide +kernel)⟩

end Tree

end CobolCheck.Term
