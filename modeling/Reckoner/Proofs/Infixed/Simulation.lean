import Reckoner.Notation.Infixed
import Reckoner.Proofs.Cursor.Simulation
import Reckoner.Proofs.Infixed.Automaton

/-!
# Reading infix expressions goes along with the automaton

A chain of the reading ends at a closing parenthesis or at the end of the
lexemes without knowing whether it belongs to a group; only the count of open
groups in the cursor tells.  The automaton keeps the chains that are open, and
the two agree because the count is the number of chains around the current one
as long as a lexeme is left.  Once none is left, every open chain of the reading
ends at once, and the count says how many groups remain open.

`evaluate_eq_map_run` is the result: the value of an infix expression is that of
the derivation the automaton builds, and its faults are those of the automaton.
-/

namespace Reckoner.Infixed

open Reading

/-! ## The reading, one lexeme at a time -/

section

variable (limit bound : Nat) (items : List Lexeme) (n g d : Nat) (span : Span)
  (read : Reading Number) (waiting : List (Number × Operator)) (v : Number)

theorem operand_nil :
    operand limit bound ⟨[], n, g, d⟩ = .error .unexpectedEnd ⟨[], n, g, d⟩ := by
  cases bound <;> rfl

theorem operand_number :
    operand limit (bound + 1) ⟨⟨.number v, span⟩ :: items, n, g, d⟩ =
      .ok v ⟨items, n + 1, g, d⟩ := rfl

theorem operand_minus :
    operand limit (bound + 1) ⟨⟨.operator .sub, span⟩ :: items, n, g, d⟩ =
      (do return -(← nested limit span (operand limit bound)) : Reading Number)
        ⟨items, n + 1, g, d⟩ := rfl

theorem operand_leftParen :
    operand limit (bound + 1) ⟨⟨.leftParen, span⟩ :: items, n, g, d⟩ =
      nested limit span (chain (operand limit bound) bound) ⟨items, n + 1, g + 1, d⟩ := rfl

theorem chainRest_nil :
    chainRest read bound waiting v ⟨[], n, g, d⟩ = .ok (settle waiting v) ⟨[], n, g, d⟩ := by
  cases bound <;> rfl

theorem chainRest_rightParen :
    chainRest read (bound + 1) waiting v ⟨⟨.rightParen, span⟩ :: items, n, g + 1, d⟩ =
      .ok (settle waiting v) ⟨items, n + 1, g, d⟩ := rfl

theorem chainRest_rightParen_unbalanced :
    chainRest read (bound + 1) waiting v ⟨⟨.rightParen, span⟩ :: items, n, 0, d⟩ =
      .error (.unbalancedParen span) ⟨items, n + 1, 0, d⟩ := rfl

theorem chainRest_additive {op : Operator} (h : op.precedence = .additive) :
    chainRest read (bound + 1) waiting v ⟨⟨.operator op, span⟩ :: items, n, g, d⟩ =
      (read >>= chainRest read bound ((v, op) :: waiting)) ⟨items, n + 1, g, d⟩ := by
  cases op <;> first | rfl | cases h

theorem chainRest_multiplicative {op : Operator} (h : op.precedence = .multiplicative) :
    chainRest read (bound + 1) waiting v ⟨⟨.operator op, span⟩ :: items, n, g, d⟩ =
      (read >>= fun next => chainRest read bound waiting (op.apply v next))
        ⟨items, n + 1, g, d⟩ := by
  cases op <;> first | rfl | cases h

end

/-! ## What the parts of a reading lead to -/

/-- The values of products that wait. -/
def valuesOf (waiting : List (Derivation .product × Additive)) : List (Number × Operator) :=
  waiting.map fun (t, op) => (t.value, op.1)

theorem value_regroup (waiting : List (Derivation .product × Additive)) (t : Derivation .sum) :
    (regroup waiting t).value = settle (valuesOf waiting) t.value := by
  induction waiting generalizing t with
  | nil => rfl
  | cons entry waiting ih =>
    obtain ⟨lhs, op⟩ := entry
    rw [regroup, List.foldl_cons, ← regroup, ih]
    rfl

/-- No lexeme is left, and more than `groups` groups are open. -/
structure LeftOpen (groups : Nat) (c : Cursor) (s : State) : Prop where
  items : c.items = []
  lt : groups < c.openGroups
  finish : Infixed.finish s = .error (.unclosedParen c.openGroups)

/-- What reading an operand of the chain `p` at `c` leads to: the chain goes on
after the operand, unless the operand is a group that the end of the lexemes
leaves open. -/
structure ReadsOperand (p : Pending) (outer : List Pending) (c : Cursor) (v : Number)
    (c' : Cursor) (s : State) : Prop where
  shorter : c'.items.length < c.items.length
  depth : c'.depth = c.depth
  place : (c'.openGroups = outer.length ∧
    ∃ t : Derivation .single, t.value = v ∧ s = .rest p.waiting (p.fill t) outer) ∨
    LeftOpen outer.length c' s

/-- What reading a chain to its end at `c` leads to: the chain around it goes on
after the group, or no lexeme is left. -/
structure ReadsChain (outer : List Pending) (c : Cursor) (v : Number) (c' : Cursor)
    (s : State) : Prop where
  notLonger : c'.items.length ≤ c.items.length
  depth : c'.depth = c.depth
  place : (∃ p outer', outer = p :: outer' ∧ c'.openGroups = outer'.length ∧
    ∃ t : Derivation .sum, t.value = v ∧ s = .rest p.waiting (p.fill (.group t)) outer') ∨
    (c'.items = [] ∧ outer.length ≤ c'.openGroups ∧
      ∃ t : Derivation .sum, t.value = v ∧ finish s = ended c'.openGroups t)

theorem ReadsChain.of_le {outer : List Pending} {c c₁ c' : Cursor} {v : Number} {s : State}
    (h : ReadsChain outer c₁ v c' s) (hlen : c₁.items.length ≤ c.items.length)
    (hd : c₁.depth = c.depth) : ReadsChain outer c v c' s :=
  ⟨Nat.le_trans h.notLonger hlen, h.depth.trans hd, h.place⟩

/-- What is behind a minus sign, read one level deeper, is an operand without
it. -/
theorem ReadsOperand.minus {p : Pending} {outer : List Pending} {c c₁ c' : Cursor} {v : Number}
    {s : State} (h : ReadsOperand p.negate outer c₁ v c' s)
    (hlen : c₁.items.length ≤ c.items.length) (hd : c₁.depth = c.depth + 1) :
    ReadsOperand p outer c (-v) { c' with depth := c'.depth - 1 } s := by
  obtain ⟨hshorter, hdepth, ⟨hg, t, rfl, rfl⟩ | hopen⟩ := h
  · exact ⟨Nat.lt_of_lt_of_le hshorter hlen, by simp only; omega,
      .inl ⟨hg, .minus t, rfl, by rw [p.fill_negate]; rfl⟩⟩
  · exact ⟨Nat.lt_of_lt_of_le hshorter hlen, by simp only; omega,
      .inr ⟨hopen.items, hopen.lt, hopen.finish⟩⟩

/-- A chain that is read after a parenthesis, one level deeper, is an operand of
the chain around it. -/
theorem ReadsChain.group {p : Pending} {outer : List Pending} {c c₁ c' : Cursor} {v : Number}
    {s : State} (h : ReadsChain (p :: outer) c₁ v c' s)
    (hlen : c₁.items.length < c.items.length) (hd : c₁.depth = c.depth + 1) :
    ReadsOperand p outer c v { c' with depth := c'.depth - 1 } s := by
  obtain ⟨hshorter, hdepth, ⟨p', outer', heq, hg, t, rfl, rfl⟩ | ⟨hnil, hle, t, rfl, hfin⟩⟩ := h
  · cases heq
    exact ⟨Nat.lt_of_le_of_lt hshorter hlen, by simp only; omega, .inl ⟨hg, .group t, rfl, rfl⟩⟩
  · refine ⟨Nat.lt_of_le_of_lt hshorter hlen, by simp only; omega, .inr ⟨hnil, hle, ?_⟩⟩
    cases hg : c'.openGroups with
    | zero => rw [hg] at hle; exact absurd hle (Nat.not_succ_le_zero _)
    | succ g => rw [hfin, hg]; rfl

theorem exists_sum_value (v : Number) : ∃ t : Derivation .sum, t.value = v :=
  ⟨.ofProduct (.ofSingle (.number v)), rfl⟩

/-! ## The simulation -/

variable {limit bound : Nat}

/-- That reading an operand goes along with the automaton, wherever the cursor
counts the groups and levels that the state holds open. -/
def OperandSimulated (limit bound : Nat) : Prop :=
  ∀ (c : Cursor) (p : Pending) (outer : List Pending), c.items.length ≤ bound →
    c.openGroups = outer.length → c.depth = p.signs + levels outer →
    c.items ≠ [] ∨ finish (.operand p outer) = .error .unexpectedEnd →
    Simulates (automaton limit) (.operand p outer) c (operand limit bound)
      (ReadsOperand p outer c)

/-- That reading the rest of a chain in at most `steps` steps goes along with the
automaton. -/
def RestSimulated (limit bound steps : Nat) : Prop :=
  ∀ (c : Cursor) (waiting : List (Derivation .product × Additive))
    (t : Derivation .product) (outer : List Pending), c.items.length ≤ steps →
    c.items.length ≤ bound → c.openGroups = outer.length → c.depth = levels outer →
    Simulates (automaton limit) (.rest waiting t outer) c
      (chainRest (operand limit bound) steps (valuesOf waiting) t.value)
      (ReadsChain outer c)

theorem signs_after (waiting : List (Derivation .product × Additive))
    (t : Derivation .product) (op : Operator) : (Pending.after waiting t op).signs = 0 := by
  cases h : op.precedence with
  | additive => rw [after_additive waiting t h]
  | multiplicative => rw [after_multiplicative waiting t h]

theorem finish_negate (p : Pending) (outer : List Pending) :
    finish (.operand p.negate outer) = .error .unexpectedEnd := by
  obtain ⟨waiting, factor, signs⟩ := p
  cases waiting <;> cases factor <;> rfl

/-- After an operator an operand is read, and the chain goes on with what the
operand completes. -/
theorem chainRest_operator (read : Reading Number) (steps : Nat)
    (waiting : List (Derivation .product × Additive)) (t : Derivation .product) (op : Operator)
    (items : List Lexeme) (n g d : Nat) (span : Span) :
    ∃ f : Number → Reading Number,
      chainRest read (steps + 1) (valuesOf waiting) t.value
          ⟨⟨.operator op, span⟩ :: items, n, g, d⟩ = (read >>= f) ⟨items, n + 1, g, d⟩ ∧
      ∀ t' : Derivation .single, f t'.value =
        chainRest read steps (valuesOf (Pending.after waiting t op).waiting)
          ((Pending.after waiting t op).fill t').value := by
  cases h : op.precedence with
  | additive =>
    rw [after_additive waiting t h]
    exact ⟨_, chainRest_additive (h := h) .., fun t' => rfl⟩
  | multiplicative =>
    rw [after_multiplicative waiting t h]
    exact ⟨_, chainRest_multiplicative (h := h) .., fun t' => rfl⟩

theorem finish_after (waiting : List (Derivation .product × Additive))
    (t : Derivation .product) (op : Operator) (outer : List Pending) :
    finish (.operand (.after waiting t op) outer) = .error .unexpectedEnd := by
  cases h : op.precedence with
  | additive =>
    rw [after_additive waiting t h]
    rfl
  | multiplicative =>
    rw [after_multiplicative waiting t h]
    cases waiting <;> rfl

/-- An operand and what comes after it in its chain. -/
theorem OperandSimulated.bind_rest {steps : Nat} {c : Cursor} {f : Number → Reading Number}
    (hop : OperandSimulated limit bound) (hrest : RestSimulated limit bound steps) (p : Pending)
    (outer : List Pending)
    (hf : ∀ t : Derivation .single, f t.value =
      chainRest (operand limit bound) steps (valuesOf p.waiting) (p.fill t).value)
    (hp : p.signs = 0) (hs : c.items.length ≤ steps + 1) (hb : c.items.length ≤ bound)
    (hg : c.openGroups = outer.length) (hd : c.depth = levels outer)
    (he : c.items ≠ [] ∨ finish (.operand p outer) = .error .unexpectedEnd) :
    Simulates (automaton limit) (.operand p outer) c (operand limit bound >>= f)
      (ReadsChain outer c) := by
  refine (hop c p outer hb hg (by rw [hp, Nat.zero_add, hd]) he).bind ?_
  rintro v c₁ s₁ ⟨hlen, hdep, ⟨hg₁, t, rfl, rfl⟩ | hopen⟩
  · rw [hf]
    exact (hrest c₁ p.waiting (p.fill t) outer (by omega) (by omega) hg₁
      (hdep.trans hd)).mono fun _ _ _ h => h.of_le (Nat.le_of_lt hlen) hdep
  · -- no lexeme is left, so the chain ends here, whatever the operand is taken for
    obtain ⟨items, n, g, d⟩ := c₁
    obtain ⟨rfl, hlt, hfin⟩ := hopen
    have hread : f v = _ := hf (.number v)
    rw [hread]
    refine .of_ok (chainRest_nil ..) rfl
      ⟨Nat.le_of_lt hlen, hdep, .inr ⟨rfl, Nat.le_of_lt hlt, ?_⟩⟩
    cases g with
    | zero => exact absurd hlt (Nat.not_lt_zero _)
    | succ g =>
      obtain ⟨t, ht⟩ := exists_sum_value (settle (valuesOf p.waiting) (p.fill (.number v)).value)
      exact ⟨t, ht, hfin⟩

/-- Where no lexeme is left, a chain ends. -/
theorem simulates_chainRest_nil (steps n d : Nat)
    (waiting : List (Derivation .product × Additive)) (t : Derivation .product)
    (outer : List Pending) :
    Simulates (automaton limit) (.rest waiting t outer) ⟨[], n, outer.length, d⟩
      (chainRest (operand limit bound) steps (valuesOf waiting) t.value)
      (ReadsChain outer ⟨[], n, outer.length, d⟩) := by
  have hvalue := value_regroup waiting (.ofProduct t)
  refine .of_ok (chainRest_nil ..) rfl ⟨Nat.le_refl _, rfl, .inr ?_⟩
  exact ⟨rfl, Nat.le_refl _, regroup waiting (.ofProduct t), hvalue, rfl⟩

theorem OperandSimulated.rest (hop : OperandSimulated limit bound) (steps : Nat) :
    RestSimulated limit bound steps := by
  induction steps with
  | zero =>
    rintro ⟨items, n, g, d⟩ waiting t outer hs hb rfl rfl
    obtain rfl : items = [] := List.length_eq_zero_iff.1 (Nat.le_zero.1 hs)
    exact simulates_chainRest_nil ..
  | succ steps ih =>
    rintro ⟨_ | ⟨⟨token, span⟩, items⟩, n, g, d⟩ waiting t outer hs hb rfl rfl
    · exact simulates_chainRest_nil ..
    have hsteps : items.length ≤ steps := Nat.le_of_succ_le_succ hs
    have hbound : items.length ≤ bound := Nat.le_of_succ_le hb
    cases token with
    | number v => exact .of_error rfl (Automaton.runFrom_cons_error rfl)
    | leftParen => exact .of_error rfl (Automaton.runFrom_cons_error rfl)
    | rightParen =>
      cases outer with
      | nil =>
        exact .of_error (chainRest_rightParen_unbalanced ..) (Automaton.runFrom_cons_error rfl)
      | cons p outer =>
        have hvalue := value_regroup waiting (.ofProduct t)
        refine .of_ok (chainRest_rightParen ..) (Automaton.runFrom_cons (step_rightParen ..))
          ⟨Nat.le_succ _, rfl, .inl ?_⟩
        exact ⟨p, outer, rfl, rfl, regroup waiting (.ofProduct t), hvalue, rfl⟩
    | operator op =>
      obtain ⟨f, hread, hf⟩ := chainRest_operator (operand limit bound) steps waiting t op items n
        outer.length (levels outer) span
      have hnext : Simulates (automaton limit) (.operand (.after waiting t op) outer)
          ⟨items, n + 1, outer.length, levels outer⟩ (operand limit bound >>= f)
          (ReadsChain outer ⟨items, n + 1, outer.length, levels outer⟩) :=
        hop.bind_rest ih _ outer hf (signs_after waiting t op) (Nat.le_succ_of_le hsteps) hbound
          rfl rfl (.inr (finish_after waiting t op outer))
      refine .step hread (Automaton.runFrom_cons (step_operator span waiting t limit outer op)) ?_
      exact hnext.mono fun _ _ _ h => h.of_le (Nat.le_succ _) rfl

/-- **Reading an operand goes along with the automaton.** -/
theorem simulates_operand (limit bound : Nat) : OperandSimulated limit bound := by
  induction bound with
  | zero =>
    rintro ⟨items, n, g, d⟩ p outer hb rfl rfl he
    obtain rfl : items = [] := List.length_eq_zero_iff.1 (Nat.le_zero.1 hb)
    exact .of_error (operand_nil ..) (he.resolve_left (· rfl))
  | succ bound ih =>
    rintro ⟨_ | ⟨⟨token, span⟩, items⟩, n, g, d⟩ p outer hb rfl rfl he
    · exact .of_error (operand_nil ..) (he.resolve_left (· rfl))
    have hbound : items.length ≤ bound := Nat.le_of_succ_le_succ hb
    cases token with
    | rightParen => exact .of_error rfl (Automaton.runFrom_cons_error rfl)
    | number v =>
      refine .of_ok (operand_number ..) (Automaton.runFrom_cons (step_number ..)) ?_
      exact ⟨Nat.lt_succ_self _, rfl, .inl ⟨rfl, .number v, rfl, rfl⟩⟩
    | operator op =>
      cases op with
      | add => exact .of_error rfl (Automaton.runFrom_cons_error rfl)
      | mul => exact .of_error rfl (Automaton.runFrom_cons_error rfl)
      | div => exact .of_error rfl (Automaton.runFrom_cons_error rfl)
      | sub =>
        by_cases hlt : p.signs + levels outer < limit
        · have hread := ih ⟨items, n + 1, outer.length, p.signs + levels outer + 1⟩ p.negate outer
            hbound rfl (Nat.add_right_comm ..) (.inr (finish_negate p outer))
          have hnested : Simulates (automaton limit) (.operand p.negate outer)
              ⟨items, n + 1, outer.length, p.signs + levels outer⟩
              (nested limit span (operand limit bound)) fun v c' s =>
                ReadsOperand p outer ⟨⟨.operator .sub, span⟩ :: items, n, outer.length,
                  p.signs + levels outer⟩ (-v) c' s :=
            .nested hlt (hread.mono fun _ _ _ h => h.minus (Nat.le_succ _) rfl)
          refine .step (operand_minus ..) (Automaton.runFrom_cons (step_minus span hlt)) ?_
          exact hnested.bind fun _ _ _ h => .pure h
        · have hle := Nat.not_lt.1 hlt
          exact .of_error ((operand_minus ..).trans (bind_error (nested_of_le hle ..)))
            (Automaton.runFrom_cons_error (step_minus_tooDeep span hle))
    | leftParen =>
      by_cases hlt : p.signs + levels outer < limit
      · have hchain : Simulates (automaton limit) (.operand .start (p :: outer))
            ⟨items, n + 1, outer.length + 1, p.signs + levels outer + 1⟩
            (chain (operand limit bound) bound)
            (ReadsChain (p :: outer)
              ⟨items, n + 1, outer.length + 1, p.signs + levels outer + 1⟩) :=
          ih.bind_rest (ih.rest bound) .start (p :: outer) (fun t => rfl) rfl
            (Nat.le_succ_of_le hbound) hbound rfl (Nat.add_right_comm ..) (.inr rfl)
        refine .step (operand_leftParen ..) (Automaton.runFrom_cons (step_leftParen span hlt)) ?_
        exact .nested hlt (hchain.mono fun _ _ _ h => h.group (Nat.lt_succ_self _) rfl)
      · have hle := Nat.not_lt.1 hlt
        exact .of_error ((operand_leftParen ..).trans (nested_of_le hle ..))
          (Automaton.runFrom_cons_error (step_leftParen_tooDeep span hle))

/-! ## Whole expressions -/

/-- **The infix notation evaluates as its automaton runs.** -/
theorem evaluate_eq_map_run (items : List Lexeme) (limit : Nat) :
    evaluate items limit = ((automaton limit).run items).map Derivation.value := by
  refine Reading.evaluate_eq_map_run (ReadsChain [] (.ofList items)) rfl ?_ ?_
  · rintro v c s ⟨-, -, ⟨p, outer, heq, -⟩ | ⟨hnil, -, t, rfl, hfin⟩⟩
    · cases heq
    · obtain ⟨rest, n, g, d⟩ := c
      cases hnil
      rw [Automaton.runFrom_nil]
      show _ = (Infixed.finish s).map _
      rw [hfin]
      cases g <;> rfl
  · intro hne
    have hop := simulates_operand limit items.length
    exact hop.bind_rest (hop.rest items.length) .start [] (fun t => rfl) rfl (Nat.le_succ _)
      (Nat.le_refl _) rfl rfl (.inl hne)

end Reckoner.Infixed
