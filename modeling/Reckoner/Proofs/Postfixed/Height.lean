import Mathlib.Data.List.Basic
import Mathlib.Data.List.Induction
import Mathlib.Order.Bounds.Basic
import Reckoner.Proofs.Expression.Surplus
import Reckoner.Proofs.Postfixed.Acceptance

/-!
# The running height of postfix expressions

The height of the stack of operands is the surplus of numbers over operators
among the tokens read (`surplus_of_read`), so a place in a list of tokens can be
judged without running anything: it is blocked when a parenthesis stands there,
or an operator with a surplus of less than two before it.  The first blocked
place is where the evaluation stops (`feed_eq_error`), and without one the final
height tells how many trees the tokens spell.  Together this fixes the outcome
for every list of lexemes (`evaluate_settled`).
-/

namespace Reckoner.Postfixed

/-! ## Blocked places -/

/-- The token cannot stand after tokens of the surplus `height`. -/
def IsBlocked (height : Int) : Token → Prop
  | .number _ => False
  | .operator _ => height < 2
  | .leftParen | .rightParen => True

/-- The places of a list of tokens whose token is blocked by those before it. -/
def blocked (tokens : List Token) : Set Nat :=
  {i | ∃ token, tokens[i]? = some token ∧ IsBlocked (surplus (tokens.take i)) token}

/-- What is said of a lexeme that is blocked. -/
def blockedFault (item : Lexeme) : Fault :=
  match item.token with
  | .operator op => .insufficientOperands op item.span
  | token => .unexpectedToken token item.span

theorem length_mem_blocked {front back : List Token} {token : Token} :
    front.length ∈ blocked (front ++ token :: back) ↔ IsBlocked (surplus front) token := by
  simp [blocked]

theorem mem_blocked_append {front back : List Token} {i : Nat} (h : i < front.length) :
    i ∈ blocked (front ++ back) ↔ i ∈ blocked front := by
  simp [blocked, List.getElem?_append_left h, List.take_append_of_le_length (Nat.le_of_lt h)]

/-! ## Steps and the height of the stack -/

/-- The height of the stack is the surplus of the tokens read. -/
theorem surplus_of_read {operands : Stack Number} {tokens : List Token}
    (h : Read operands tokens) : surplus tokens = operands.size := by
  obtain ⟨forest, hvalues, rfl⟩ := h
  have hlength := congrArg List.length hvalues
  rw [List.length_map, Stack.length_toList] at hlength
  rw [Expression.surplus_forest, hlength]

theorem read_feed {operands : Stack Number} {items : List Lexeme}
    (h : automaton.feed .empty items = .ok operands) :
    Read operands (items.map Lexeme.token) :=
  records_automaton.feed records_automaton.start h

/-- Nothing is done with a blocked token. -/
theorem step_of_isBlocked {operands : Stack Number} {item : Lexeme}
    (h : IsBlocked operands.size item.token) :
    automaton.step operands item = .error (blockedFault item) := by
  obtain ⟨token, span⟩ := item
  cases token with
  | number v => exact absurd h id
  | leftParen => rfl
  | rightParen => rfl
  | operator op =>
    obtain ⟨_ | ⟨v, _ | ⟨w, below⟩⟩⟩ := operands
    · rfl
    · rfl
    · simp [IsBlocked, Stack.size] at h
      omega

/-- Every other token is put on the stack or joins operands on it. -/
theorem exists_step_of_not_isBlocked {operands : Stack Number} {item : Lexeme}
    (h : ¬IsBlocked operands.size item.token) :
    ∃ operands', automaton.step operands item = .ok operands' := by
  obtain ⟨token, span⟩ := item
  cases token with
  | number v => exact ⟨_, step_number operands v span⟩
  | leftParen => exact absurd trivial h
  | rightParen => exact absurd trivial h
  | operator op =>
    obtain ⟨_ | ⟨v, _ | ⟨w, below⟩⟩⟩ := operands
    · simp [IsBlocked, Stack.size] at h
    · simp [IsBlocked, Stack.size] at h
    · exact ⟨_, step_operator ⟨below⟩ w v op span⟩

/-! ## Where a run stops -/

variable {items : List Lexeme}

/-- The state before a lexeme tells whether its place is blocked. -/
theorem length_mem_blocked_of_feed {operands : Stack Number} {before after : List Lexeme}
    {item : Lexeme} (h : automaton.feed .empty before = .ok operands) :
    before.length ∈ blocked ((before ++ item :: after).map Lexeme.token) ↔
      IsBlocked operands.size item.token := by
  rw [List.map_append, List.map_cons, ← List.length_map Lexeme.token, length_mem_blocked,
    surplus_of_read (read_feed h)]

/-- A run that does not stop meets no blocked place. -/
theorem blocked_eq_empty {operands : Stack Number}
    (h : automaton.feed .empty items = .ok operands) : blocked (items.map Lexeme.token) = ∅ := by
  rw [Set.eq_empty_iff_forall_notMem]
  intro i hi
  have hlt : i < items.length := by
    obtain ⟨token, hget, -⟩ := hi
    simpa using (List.getElem?_eq_some_iff.1 hget).1
  obtain ⟨before, item, after, rfl, rfl⟩ : ∃ before item after,
      items = before ++ item :: after ∧ before.length = i :=
    ⟨items.take i, items[i], items.drop (i + 1), by simp, by simp; omega⟩
  obtain ⟨s, s', hbefore, hstep, -⟩ := Automaton.feed_append_cons_eq_ok h
  rw [length_mem_blocked_of_feed hbefore] at hi
  rw [step_of_isBlocked hi] at hstep
  cases hstep

/-- A run that stops does so at the first blocked place. -/
theorem exists_isLeast_blocked {fault : Fault}
    (h : automaton.feed .empty items = .error fault) : ∃ i item,
      IsLeast (blocked (items.map Lexeme.token)) i ∧ items[i]? = some item ∧
        fault = blockedFault item := by
  obtain ⟨before, item, after, s, rfl, hbefore, hstep⟩ := Automaton.exists_of_feed_eq_error h
  have hblocked : IsBlocked s.size item.token := by
    by_contra hfree
    obtain ⟨s', hs'⟩ := exists_step_of_not_isBlocked hfree
    rw [hs'] at hstep
    cases hstep
  refine ⟨before.length, item, ⟨?_, ?_⟩, by simp, ?_⟩
  · exact (length_mem_blocked_of_feed hbefore).2 hblocked
  · intro j hj
    by_contra hlt
    rw [List.map_append, mem_blocked_append (by simpa using hlt), blocked_eq_empty hbefore] at hj
    exact hj
  · rw [step_of_isBlocked hblocked] at hstep
    cases hstep
    rfl

/-! ## Forests -/

/-- The tokens are the postfix forms of the trees, one after the other. -/
def Concatenates (tokens : List Token) (forest : List (Expression Number)) : Prop :=
  tokens = forest.flatMap (Expression.tokens .postfixed)

namespace Concatenates

variable {tokens : List Token} {forest forest' : List (Expression Number)}

theorem surplus_eq (h : Concatenates tokens forest) : surplus tokens = forest.length := by
  rw [h, Expression.surplus_forest]

/-- A list of tokens can be cut into postfix forms in one way only. -/
theorem unique (h : Concatenates tokens forest) (h' : Concatenates tokens forest') :
    forest' = forest := by
  induction forest using List.reverseRecOn generalizing tokens forest' with
  | nil =>
    have hlength := h'.surplus_eq.symm.trans h.surplus_eq
    exact List.length_eq_zero_iff.1 (by simpa using hlength)
  | append_singleton forest t ih =>
    rcases List.eq_nil_or_concat' forest' with rfl | ⟨front, t', rfl⟩
    · have hlength := h.surplus_eq.symm.trans h'.surplus_eq
      simp at hlength
      omega
    · -- the last trees are the same, and so is what comes before them
      have hlast := h.symm.trans h'
      simp only [List.flatMap_append, List.flatMap_singleton] at hlast
      obtain ⟨hfront, rfl⟩ := eq_of_append_tokens_eq hlast
      rw [ih rfl hfront]

end Concatenates

/-! ## The outcome -/

/-- The first blocked place decides. -/
theorem evaluate_eq_blockedFault {i : Nat} {item : Lexeme}
    (hi : IsLeast (blocked (items.map Lexeme.token)) i) (hget : items[i]? = some item) :
    evaluate items = .error (blockedFault item) := by
  rw [evaluate_eq_run]
  cases h : automaton.feed .empty items with
  | ok operands =>
    have hmem := hi.1
    rw [blocked_eq_empty h] at hmem
    exact absurd hmem (Set.notMem_empty i)
  | error fault =>
    obtain ⟨j, item', hj, hget', rfl⟩ := exists_isLeast_blocked h
    obtain rfl : j = i := hj.unique hi
    obtain rfl : item = item' := Option.some.inj (hget.symm.trans hget')
    exact Automaton.run_of_feed_error h

/-- Without a blocked place the stack decides, on which all trees are. -/
theorem exists_read_of_blocked_eq_empty (h : blocked (items.map Lexeme.token) = ∅) :
    ∃ operands, evaluate items = result operands ∧ Read operands (items.map Lexeme.token) := by
  cases hfeed : automaton.feed .empty items with
  | ok operands =>
    exact ⟨operands, (evaluate_eq_run items).trans (Automaton.run_of_feed hfeed), read_feed hfeed⟩
  | error fault =>
    obtain ⟨i, item, hi, -, -⟩ := exists_isLeast_blocked hfeed
    have hmem := hi.1
    rw [h] at hmem
    exact absurd hmem (Set.notMem_empty i)

theorem exists_concatenates (h : blocked (items.map Lexeme.token) = ∅) :
    ∃ forest, Concatenates (items.map Lexeme.token) forest := by
  obtain ⟨operands, -, forest, -, hforest⟩ := exists_read_of_blocked_eq_empty h
  exact ⟨forest, hforest⟩

theorem result_of_two_le {operands : Stack Number} (h : 2 ≤ operands.size) :
    result operands = .error (.wrongOperandCount operands.size) := by
  obtain ⟨_ | ⟨v, _ | ⟨w, below⟩⟩⟩ := operands
  · simp [Stack.size] at h
  · simp [Stack.size] at h
  · rfl

/-- What the running height of a list of lexemes says about its outcome. -/
structure Settled (items : List Lexeme) (outcome : Except Fault Number) : Prop where
  /-- A parenthesis in the first blocked place is out of place. -/
  parenthesis : ∀ i item, IsLeast (blocked (items.map Lexeme.token)) i → items[i]? = some item →
    item.token = .leftParen ∨ item.token = .rightParen →
      outcome = .error (.unexpectedToken item.token item.span)
  /-- An operator in the first blocked place lacks operands. -/
  operator : ∀ i op span, IsLeast (blocked (items.map Lexeme.token)) i →
    items[i]? = some ⟨.operator op, span⟩ → outcome = .error (.insufficientOperands op span)
  /-- Exactly without lexemes the expression is empty. -/
  empty : outcome = .error .empty ↔ items = []
  /-- Lexemes without a blocked place have at least the height one. -/
  positive : blocked (items.map Lexeme.token) = ∅ → items ≠ [] →
    1 ≤ surplus (items.map Lexeme.token)
  /-- A greater height is the number of trees that are left over. -/
  several : blocked (items.map Lexeme.token) = ∅ → ∀ n : Nat, 2 ≤ n →
    surplus (items.map Lexeme.token) = n → outcome = .error (.wrongOperandCount n) ∧
      ∃ forest, forest.length = n ∧ Concatenates (items.map Lexeme.token) forest ∧
        ∀ forest', Concatenates (items.map Lexeme.token) forest' → forest' = forest
  /-- At the height one there is a single tree, and its value is the outcome. -/
  single : blocked (items.map Lexeme.token) = ∅ → surplus (items.map Lexeme.token) = 1 →
    ∃ t : Expression Number, Spells items t.postfixed ∧ outcome = .ok t.value ∧
      ∀ t' : Expression Number, Spells items t'.postfixed → t' = t

/-- **The running height fixes the outcome**, for every list of lexemes. -/
theorem evaluate_settled (items : List Lexeme) : Settled items (evaluate items) where
  parenthesis := by
    rintro i ⟨token, span⟩ hi hget (rfl | rfl)
    · exact evaluate_eq_blockedFault hi hget
    · exact evaluate_eq_blockedFault hi hget
  operator i op span hi hget := evaluate_eq_blockedFault hi hget
  empty := evaluate_eq_empty_iff
  positive h hne := by
    obtain ⟨forest, hforest⟩ := exists_concatenates h
    rw [hforest.surplus_eq]
    cases forest with
    | nil => exact absurd (List.map_eq_nil_iff.1 hforest) hne
    | cons t forest =>
      rw [List.length_cons]
      omega
  several h n hn hsurplus := by
    obtain ⟨operands, houtcome, hread⟩ := exists_read_of_blocked_eq_empty h
    obtain rfl : operands.size = n := by
      have hsize := surplus_of_read hread
      omega
    obtain ⟨forest, hforest⟩ := exists_concatenates h
    have hlength := hforest.surplus_eq
    rw [houtcome, result_of_two_le hn]
    exact ⟨rfl, forest, by omega, hforest, fun forest' => hforest.unique⟩
  single h hsurplus := by
    obtain ⟨forest, hforest⟩ := exists_concatenates h
    have hlength := hforest.surplus_eq
    obtain ⟨t, rfl⟩ : ∃ t, forest = [t] := List.length_eq_one_iff.1 (by omega)
    have hspells : Spells items t.postfixed := by
      rw [Concatenates, List.flatMap_singleton] at hforest
      exact hforest
    exact ⟨t, hspells, evaluate_postfixed hspells, fun t' h' => eq_of_spells h' hspells⟩

end Reckoner.Postfixed
