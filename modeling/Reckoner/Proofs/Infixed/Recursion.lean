import Reckoner.Notation.Infixed
import Reckoner.Proofs.Cursor.Readings

/-!
# The loop over a chain as a recursion

A chain is read in a loop that keeps the products which wait for their right
operand in a list.  The same values come from a recursion without any list: an
additive operator reads a whole chain for its right operand, and applies itself
to it on the way out.  Then a single closing parenthesis ends all of the chains
that were started since its group was opened.

A `Recursion` is any family of readings that satisfies the equations of that
recursion.  There is one (`Recursion.bounded`), and the loop agrees with each of
them at every cursor (`chain_eq_recursion`): in the value or the fault, and in
the cursor it leaves behind.
-/

namespace Reckoner.Infixed

open Reading

/-! ## The recursion -/

/-- Reads one operand, given how operands and chains are read inside of it. -/
def operandOf (limit : Nat) (operand chain : Reading Number) : Reading Number := do
  let item ← nextItem
  match item.token with
  | .number n => return n
  | .operator .sub => do
    let value ← nested limit item.span operand
    return -value
  | .leftParen => do
    openGroup
    nested limit item.span chain
  | token => throw (.unexpectedToken token item.span)

/-- Reads what follows a left operand, given how operands, chains and what
follows are read inside of it. -/
def tailOf (operand chain : Reading Number) (tail : Number → Reading Number) (lhs : Number) :
    Reading Number := do
  match ← advance with
  | none => return lhs
  | some item =>
    match item.token with
    | .rightParen => do
      closeGroup item.span
      return lhs
    | .operator op =>
      match op.precedence with
      | .additive => do
        let rhs ← chain
        return op.apply lhs rhs
      | .multiplicative => do
        let rhs ← operand
        tail (op.apply lhs rhs)
    | token => throw (.unexpectedToken token item.span)

/-- Readings of operands, chains and what follows a left operand that call each
other as the grammar does. -/
structure Recursion (limit : Nat) where
  operand : Reading Number
  chain : Reading Number
  tail : Number → Reading Number
  operand_eq : operand = operandOf limit operand chain
  chain_eq : chain = operand >>= tail
  tail_eq : ∀ lhs, tail lhs = tailOf operand chain tail lhs

/-! ## What follows a left operand, one lexeme at a time -/

section

variable (operand chain : Reading Number) (tail : Number → Reading Number) (lhs : Number)
  (items : List Lexeme) (n g d : Nat) (span : Span)

theorem tailOf_additive {op : Operator} (h : op.precedence = .additive) :
    tailOf operand chain tail lhs ⟨⟨.operator op, span⟩ :: items, n, g, d⟩ =
      (op.apply lhs <$> chain) ⟨items, n + 1, g, d⟩ := by
  cases op <;> first | rfl | cases h

theorem tailOf_multiplicative {op : Operator} (h : op.precedence = .multiplicative) :
    tailOf operand chain tail lhs ⟨⟨.operator op, span⟩ :: items, n, g, d⟩ =
      (operand >>= fun rhs => tail (op.apply lhs rhs)) ⟨items, n + 1, g, d⟩ := by
  cases op <;> first | rfl | cases h

end

/-! ## Progress -/

theorem advances_operandOf {limit : Nat} {operand chain : Reading Number}
    (ho : Advances 0 operand) (hc : Advances 0 chain) :
    Advances 1 (operandOf limit operand chain) := by
  refine advances_nextItem.bind (l := 0) fun item => ?_
  obtain ⟨token, span⟩ := item
  cases token with
  | number v => exact advances_pure v
  | rightParen => exact advances_throw _ _
  | leftParen => exact advances_openGroup.bind fun _ => hc.nested limit span
  | operator op =>
    cases op with
    | add => exact advances_throw _ _
    | sub => exact (ho.nested limit span).bind fun v => advances_pure (-v)
    | mul => exact advances_throw _ _
    | div => exact advances_throw _ _

theorem advances_tailOf {operand chain : Reading Number} {tail : Number → Reading Number}
    (ho : Advances 0 operand) (hc : Advances 0 chain) (ht : ∀ v, Advances 0 (tail v))
    (lhs : Number) : Advances 0 (tailOf operand chain tail lhs) := by
  refine advances_advance.bind (l := 0) fun item? => ?_
  rcases item? with _ | ⟨token, span⟩
  · exact advances_pure lhs
  cases token with
  | number v => exact advances_throw _ _
  | leftParen => exact advances_throw _ _
  | rightParen => exact (advances_closeGroup span).bind fun _ => advances_pure lhs
  | operator op =>
    cases op with
    | add => exact hc.bind fun v => advances_pure _
    | sub => exact hc.bind fun v => advances_pure _
    | mul => exact ho.bind fun v => ht _
    | div => exact ho.bind fun v => ht _

/-! ## The loop -/

/-- The products that wait are settled with whatever the rest of the chain comes
to, so the loop can start without them. -/
theorem chainRest_eq_map (read : Reading Number) (bound : Nat)
    (waiting : List (Number × Operator)) (v : Number) :
    chainRest read bound waiting v = settle waiting <$> chainRest read bound [] v := by
  induction bound generalizing waiting v with
  | zero => rfl
  | succ bound ih =>
    have hadditive : ∀ op : Operator,
        (read >>= fun next => chainRest read bound ((v, op) :: waiting) next) =
          settle waiting <$> (read >>= fun next => chainRest read bound [(v, op)] next) := by
      intro op
      rw [map_bind]
      refine bind_congr fun next => ?_
      rw [ih ((v, op) :: waiting), ih [(v, op)], Functor.map_map]
      rfl
    have hmultiplicative : ∀ op : Operator,
        (read >>= fun next => chainRest read bound waiting (op.apply v next)) =
          settle waiting <$> (read >>= fun next => chainRest read bound [] (op.apply v next)) := by
      intro op
      rw [map_bind]
      exact bind_congr fun next => ih waiting (op.apply v next)
    rw [chainRest, chainRest, map_bind]
    refine bind_congr fun item? => ?_
    rcases item? with _ | ⟨token, span⟩
    · rfl
    cases token with
    | number w => rfl
    | leftParen => rfl
    | rightParen => rw [map_bind]; rfl
    | operator op =>
      cases op with
      | add => exact hadditive .add
      | sub => exact hadditive .sub
      | mul => exact hmultiplicative .mul
      | div => exact hmultiplicative .div

/-- The loop satisfies the equation of the recursion. -/
theorem chainRest_succ (read : Reading Number) (bound : Nat) (v : Number) :
    chainRest read (bound + 1) [] v =
      tailOf read (chain read bound) (chainRest read bound []) v := by
  have hadditive : ∀ op : Operator,
      (read >>= fun next => chainRest read bound [(v, op)] next) =
        op.apply v <$> chain read bound := by
    intro op
    rw [chain, map_bind]
    exact bind_congr fun next => chainRest_eq_map read bound [(v, op)] next
  rw [chainRest, tailOf]
  refine bind_congr fun item? => ?_
  rcases item? with _ | ⟨token, span⟩
  · rfl
  cases token with
  | number w => rfl
  | leftParen => rfl
  | rightParen => rfl
  | operator op =>
    cases op with
    | add => exact hadditive .add
    | sub => exact hadditive .sub
    | mul => rfl
    | div => rfl

/-! ## Agreement

What is read after a lexeme has one lexeme less ahead, so two families of
readings that agree up to some number of lexemes give readings that agree up to
one more. -/

section

variable {limit n : Nat} {operand operand' chain chain' : Reading Number}
  {tail tail' : Number → Reading Number}

theorem agreeUpTo_operandOf (ho : AgreeUpTo n operand operand') (hc : AgreeUpTo n chain chain') :
    AgreeUpTo (n + 1) (operandOf limit operand chain) (operandOf limit operand' chain') := by
  rintro ⟨_ | ⟨⟨token, span⟩, items⟩, k, g, d⟩ h
  · rfl
  have hitems : items.length ≤ n := Nat.le_of_succ_le_succ h
  cases token with
  | number v => rfl
  | rightParen => rfl
  | leftParen => exact nested_congr (hc _ hitems)
  | operator op =>
    cases op with
    | add => rfl
    | sub =>
      show (nested limit span operand >>= fun v => pure (-v)) ⟨items, k + 1, g, d⟩ =
        (nested limit span operand' >>= fun v => pure (-v)) ⟨items, k + 1, g, d⟩
      exact Reading.bind_congr (nested_congr (ho _ hitems)) fun _ _ _ => rfl
    | mul => rfl
    | div => rfl

theorem agreeUpTo_tailOf (ho : AgreeUpTo n operand operand') (hadv : Advances 0 operand)
    (hc : AgreeUpTo n chain chain') (ht : ∀ v, AgreeUpTo n (tail v) (tail' v)) (lhs : Number) :
    AgreeUpTo (n + 1) (tailOf operand chain tail lhs) (tailOf operand' chain' tail' lhs) := by
  rintro ⟨_ | ⟨⟨token, span⟩, items⟩, k, g, d⟩ h
  · rfl
  have hitems : items.length ≤ n := Nat.le_of_succ_le_succ h
  cases token with
  | number v => rfl
  | leftParen => rfl
  | rightParen => rfl
  | operator op =>
    cases hp : op.precedence with
    | additive =>
      rw [tailOf_additive (h := hp), tailOf_additive (h := hp), map_eq_pure_bind,
        map_eq_pure_bind]
      exact Reading.bind_congr (hc _ hitems) fun _ _ _ => rfl
    | multiplicative =>
      rw [tailOf_multiplicative (h := hp), tailOf_multiplicative (h := hp)]
      exact (ho.bind hadv fun v => ht (op.apply lhs v)) _ hitems

end

/-! ## The loop is the recursion -/

theorem advances_chainRest {read : Reading Number} (h : Advances 0 read) (bound : Nat)
    (v : Number) : Advances 0 (chainRest read bound [] v) := by
  induction bound generalizing v with
  | zero => exact advances_pure v
  | succ bound ih =>
    rw [chainRest_succ]
    exact advances_tailOf h (h.bind fun v => ih v) ih v

theorem advances_operand (limit bound : Nat) : Advances 0 (operand limit bound) := by
  induction bound with
  | zero => exact advances_throw _ _
  | succ bound ih =>
    exact (advances_operandOf ih (ih.bind fun v => advances_chainRest ih bound v)).mono
      (Nat.zero_le 1)

variable {limit : Nat} (R : Recursion limit)

theorem Recursion.agreeUpTo_chainRest {n : Nat} {read : Reading Number}
    (ho : AgreeUpTo n read R.operand) (hadv : Advances 0 read) (steps : Nat) (hs : steps ≤ n)
    (v : Number) : AgreeUpTo steps (chainRest read steps [] v) (R.tail v) := by
  induction steps generalizing v with
  | zero =>
    rintro ⟨items, k, g, d⟩ hc
    obtain rfl : items = [] := List.length_eq_zero_iff.1 (Nat.le_zero.1 hc)
    rw [R.tail_eq]
    rfl
  | succ steps ih =>
    have hread := ho.mono (Nat.le_of_succ_le hs)
    have htail := ih (Nat.le_of_succ_le hs)
    rw [chainRest_succ, R.tail_eq]
    refine agreeUpTo_tailOf hread hadv ?_ htail v
    rw [R.chain_eq]
    exact hread.bind hadv htail

theorem Recursion.agreeUpTo_chain {n : Nat} {read : Reading Number}
    (ho : AgreeUpTo n read R.operand) (hadv : Advances 0 read) :
    AgreeUpTo n (Infixed.chain read n) R.chain := by
  rw [R.chain_eq]
  exact ho.bind hadv (R.agreeUpTo_chainRest ho hadv n (Nat.le_refl n))

theorem Recursion.agreeUpTo_operand (bound : Nat) :
    AgreeUpTo bound (Infixed.operand limit bound) R.operand := by
  induction bound with
  | zero =>
    rintro ⟨items, k, g, d⟩ hc
    obtain rfl : items = [] := List.length_eq_zero_iff.1 (Nat.le_zero.1 hc)
    rw [R.operand_eq]
    rfl
  | succ bound ih =>
    rw [R.operand_eq]
    exact agreeUpTo_operandOf ih (R.agreeUpTo_chain ih (advances_operand limit bound))

/-! ## The bounded recursion -/

mutual

/-- Reads one operand by recursion.  `bound` is at least the number of lexemes
ahead. -/
def operandWithin (limit : Nat) : (bound : Nat) → Reading Number
  | 0 => throw .unexpectedEnd
  | bound + 1 =>
    operandOf limit (operandWithin limit bound)
      (operandWithin limit bound >>= tailWithin limit bound)

/-- Reads what follows a left operand by recursion. -/
def tailWithin (limit : Nat) : (bound : Nat) → (lhs : Number) → Reading Number
  | 0, lhs => return lhs
  | bound + 1, lhs =>
    tailOf (operandWithin limit bound) (operandWithin limit bound >>= tailWithin limit bound)
      (tailWithin limit bound) lhs

end

theorem advances_within (limit bound : Nat) :
    Advances 0 (operandWithin limit bound) ∧ ∀ v, Advances 0 (tailWithin limit bound v) := by
  induction bound with
  | zero => exact ⟨advances_throw _ _, advances_pure⟩
  | succ bound ih =>
    obtain ⟨ho, ht⟩ := ih
    have hc := ho.bind (l := 0) ht
    exact ⟨(advances_operandOf ho hc).mono (Nat.zero_le 1), advances_tailOf ho hc ht⟩

/-- A larger bound makes no difference. -/
theorem agreeUpTo_within (limit : Nat) {m n : Nat} (h : m ≤ n) :
    AgreeUpTo m (operandWithin limit m) (operandWithin limit n) ∧
      ∀ v, AgreeUpTo m (tailWithin limit m v) (tailWithin limit n v) := by
  induction m generalizing n with
  | zero =>
    cases n with
    | zero => exact ⟨fun _ _ => rfl, fun _ _ _ => rfl⟩
    | succ n =>
      refine ⟨?_, fun v => ?_⟩
      all_goals
        rintro ⟨items, k, g, d⟩ hc
        obtain rfl : items = [] := List.length_eq_zero_iff.1 (Nat.le_zero.1 hc)
        rfl
  | succ m ih =>
    cases n with
    | zero => omega
    | succ n =>
      obtain ⟨ho, ht⟩ := ih (Nat.le_of_succ_le_succ h)
      obtain ⟨hadv, -⟩ := advances_within limit m
      have hc := ho.bind hadv ht
      exact ⟨agreeUpTo_operandOf ho hc, agreeUpTo_tailOf ho hadv hc ht⟩

namespace Recursion

/-- The bounded recursion with the bound taken from the lexemes ahead. -/
def boundedOperand (limit : Nat) : Reading Number :=
  fun c => operandWithin limit c.items.length c

/-- The bounded recursion after a left operand, with the bound taken from the
lexemes ahead. -/
def boundedTail (limit : Nat) (lhs : Number) : Reading Number :=
  fun c => tailWithin limit c.items.length lhs c

theorem agreeUpTo_bounded (limit n : Nat) :
    AgreeUpTo n (operandWithin limit n) (boundedOperand limit) ∧
      ∀ v, AgreeUpTo n (tailWithin limit n v) (boundedTail limit v) :=
  ⟨fun c hc => ((agreeUpTo_within limit hc).1 c (Nat.le_refl _)).symm,
    fun v c hc => ((agreeUpTo_within limit hc).2 v c (Nat.le_refl _)).symm⟩

theorem agreeUpTo_bounded_chain (limit n : Nat) :
    AgreeUpTo n (operandWithin limit n >>= tailWithin limit n)
      (boundedOperand limit >>= boundedTail limit) :=
  (agreeUpTo_bounded limit n).1.bind (advances_within limit n).1 (agreeUpTo_bounded limit n).2

/-- The recursion of the grammar. -/
def bounded (limit : Nat) : Recursion limit where
  operand := boundedOperand limit
  chain := boundedOperand limit >>= boundedTail limit
  tail := boundedTail limit
  operand_eq := by
    funext c
    obtain ⟨hoperand, -⟩ := agreeUpTo_bounded limit c.items.length
    rw [boundedOperand, (agreeUpTo_within limit (Nat.le_succ _)).1 c (Nat.le_refl _),
      operandWithin]
    exact agreeUpTo_operandOf hoperand (agreeUpTo_bounded_chain limit _) c (Nat.le_succ _)
  chain_eq := rfl
  tail_eq lhs := by
    funext c
    obtain ⟨hoperand, htail⟩ := agreeUpTo_bounded limit c.items.length
    obtain ⟨hadv, -⟩ := advances_within limit c.items.length
    rw [boundedTail, (agreeUpTo_within limit (Nat.le_succ _)).2 lhs c (Nat.le_refl _), tailWithin]
    exact agreeUpTo_tailOf hoperand hadv (agreeUpTo_bounded_chain limit _) htail lhs c
      (Nat.le_succ _)

end Recursion

/-- **The loop over a chain does what the recursion does.**  At every cursor it
gives the same value or the same fault, and leaves the same cursor behind; so an
expression evaluates alike either way. -/
theorem chain_eq_recursion {limit : Nat} (R : Recursion limit) :
    (∀ (c : Cursor) (bound : Nat), c.items.length ≤ bound →
      chain (operand limit bound) bound c = R.chain c) ∧
    ∀ items, evaluate items limit = Reading.evaluate R.chain items := by
  have hchain : ∀ bound, AgreeUpTo bound (chain (operand limit bound) bound) R.chain :=
    fun bound => R.agreeUpTo_chain (R.agreeUpTo_operand bound) (advances_operand limit bound)
  refine ⟨fun c bound h => hchain bound c h, fun items => ?_⟩
  exact Reading.evaluate_congr (hchain items.length _ (Nat.le_refl _))

theorem chain_eq_recursion_difference :
    Reading.evaluate (Recursion.bounded 256).chain
      [⟨.number (.integer 8), .single 0⟩, ⟨.operator .sub, .single 2⟩,
        ⟨.number (.integer 4), .single 4⟩, ⟨.operator .sub, .single 6⟩,
        ⟨.number (.integer 2), .single 8⟩] = .ok (.integer 6) := by
  rw [← (chain_eq_recursion (Recursion.bounded 256)).2]
  rfl

end Reckoner.Infixed
