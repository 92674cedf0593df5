import Reckoner.Proofs.Automaton
import Reckoner.Proofs.Infixed.Derivation

/-!
# The infix notation as an automaton

The automaton keeps the chain it is in and the chains around it, one for each
open parenthesis.  A chain that waits for an operand is a `Pending`: products
with the additive operators that wait for everything to come, perhaps a product
with a multiplicative operator that waits for one operand, and the minus signs
that stand before that operand.

The automaton is the grammar read from left to right: a run succeeds with a
derivation exactly when it is one of the lexemes and not too deep
(`parses_automaton`).  Since a run has one result, the grammar is unambiguous
(`Derivation.eq_of_tokens_eq`).
-/

namespace Reckoner.Infixed

/-- A chain that waits for an operand. -/
structure Pending where
  /-- Products and the additive operators after them, the last one first. -/
  waiting : List (Derivation .product × Additive)
  /-- The product that the operand continues. -/
  factor : Option (Derivation .product × Multiplicative)
  /-- The number of minus signs before the operand. -/
  signs : Nat

namespace Pending

/-- A chain without any lexemes yet. -/
def start : Pending := ⟨[], none, 0⟩

/-- A chain after an operator that follows `t`. -/
def after (waiting : List (Derivation .product × Additive)) (t : Derivation .product)
    (op : Operator) : Pending :=
  match h : op.precedence with
  | .additive => ⟨(t, ⟨op, h⟩) :: waiting, none, 0⟩
  | .multiplicative => ⟨waiting, some (t, ⟨op, h⟩), 0⟩

/-- The product that ends with the operand the chain waits for. -/
def fill (p : Pending) (t : Derivation .single) : Derivation .product :=
  match p.factor with
  | none => .ofSingle (.signed p.signs t)
  | some (lhs, op) => .times lhs op (.signed p.signs t)

/-- One more minus sign before the operand. -/
def negate (p : Pending) : Pending := { p with signs := p.signs + 1 }

theorem fill_negate (p : Pending) (t : Derivation .single) :
    p.negate.fill t = p.fill (.minus t) := rfl

end Pending

/-- Gives additive operators everything after them, the last one first. -/
def regroup (waiting : List (Derivation .product × Additive)) (t : Derivation .sum) :
    Derivation .sum :=
  waiting.foldl (fun rhs (lhs, op) => .plus lhs op rhs) t

/-- The number of levels that chains around the current one hold open. -/
def levels : (outer : List Pending) → Nat
  | [] => 0
  | p :: outer => p.signs + 1 + levels outer

@[simp] theorem levels_nil : levels [] = 0 := rfl

@[simp] theorem levels_cons (p : Pending) (outer : List Pending) :
    levels (p :: outer) = p.signs + 1 + levels outer := rfl

/-- What has been read of an expression. -/
inductive State where
  /-- An operand comes next. -/
  | operand (p : Pending) (outer : List Pending)
  /-- The chain goes on or ends after the product `t`. -/
  | rest (waiting : List (Derivation .product × Additive)) (t : Derivation .product)
      (outer : List Pending)

/-- The result at the end of the lexemes, with `open` groups left open. -/
def ended : (groups : Nat) → Derivation .sum → Except Fault (Derivation .sum)
  | 0, t => .ok t
  | groups + 1, _ => .error (.unclosedParen (groups + 1))

/-- What a lexeme does to a state. -/
def step (limit : Nat) : State → Lexeme → Except Fault State
  | .operand p outer, item =>
    match item.token with
    | .number v => .ok (.rest p.waiting (p.fill (.number v)) outer)
    | .operator .sub =>
      if p.signs + levels outer < limit then .ok (.operand p.negate outer)
      else .error (.tooDeep item.span)
    | .leftParen =>
      if p.signs + levels outer < limit then .ok (.operand .start (p :: outer))
      else .error (.tooDeep item.span)
    | token => .error (.unexpectedToken token item.span)
  | .rest waiting t outer, item =>
    match item.token with
    | .operator op => .ok (.operand (.after waiting t op) outer)
    | .rightParen =>
      match outer with
      | [] => .error (.unbalancedParen item.span)
      | p :: outer =>
        .ok (.rest p.waiting (p.fill (.group (regroup waiting (.ofProduct t)))) outer)
    | token => .error (.unexpectedToken token item.span)

/-- The derivation of what has been read, when it is complete. -/
def finish : State → Except Fault (Derivation .sum)
  | .operand ⟨[], none, 0⟩ [] => .error .empty
  | .operand _ _ => .error .unexpectedEnd
  | .rest waiting t outer => ended outer.length (regroup waiting (.ofProduct t))

/-- The automaton of the infix notation. -/
def automaton (limit : Nat) : Automaton State (Derivation .sum) where
  start := .operand .start []
  step := step limit
  finish := finish

/-! ## Steps -/

section

variable {limit : Nat} {p : Pending} {outer : List Pending} (span : Span)
  (waiting : List (Derivation .product × Additive)) (t : Derivation .product)

theorem step_number (limit : Nat) (p : Pending) (outer : List Pending) (v : Number) :
    (automaton limit).step (.operand p outer) ⟨.number v, span⟩ =
      .ok (.rest p.waiting (p.fill (.number v)) outer) := rfl

theorem step_minus (h : p.signs + levels outer < limit) :
    (automaton limit).step (.operand p outer) ⟨.operator .sub, span⟩ =
      .ok (.operand p.negate outer) := if_pos h

theorem step_minus_tooDeep (h : limit ≤ p.signs + levels outer) :
    (automaton limit).step (.operand p outer) ⟨.operator .sub, span⟩ =
      .error (.tooDeep span) := if_neg (Nat.not_lt.2 h)

theorem step_leftParen (h : p.signs + levels outer < limit) :
    (automaton limit).step (.operand p outer) ⟨.leftParen, span⟩ =
      .ok (.operand .start (p :: outer)) := if_pos h

theorem step_leftParen_tooDeep (h : limit ≤ p.signs + levels outer) :
    (automaton limit).step (.operand p outer) ⟨.leftParen, span⟩ =
      .error (.tooDeep span) := if_neg (Nat.not_lt.2 h)

theorem step_operator (limit : Nat) (outer : List Pending) (op : Operator) :
    (automaton limit).step (.rest waiting t outer) ⟨.operator op, span⟩ =
      .ok (.operand (.after waiting t op) outer) := rfl

theorem step_rightParen (limit : Nat) (p : Pending) (outer : List Pending) :
    (automaton limit).step (.rest waiting t (p :: outer)) ⟨.rightParen, span⟩ =
      .ok (.rest p.waiting (p.fill (.group (regroup waiting (.ofProduct t)))) outer) := rfl

theorem after_additive {op : Operator} (h : op.precedence = .additive) :
    Pending.after waiting t op = ⟨(t, ⟨op, h⟩) :: waiting, none, 0⟩ := by
  cases op <;> first | rfl | cases h

theorem after_multiplicative {op : Operator} (h : op.precedence = .multiplicative) :
    Pending.after waiting t op = ⟨waiting, some (t, ⟨op, h⟩), 0⟩ := by
  cases op <;> first | rfl | cases h

end

/-- The steps that lexemes allow. -/
inductive Transition (limit : Nat) : State → Token → State → Prop where
  | number (p : Pending) (outer : List Pending) (v : Number) :
    Transition limit (.operand p outer) (.number v) (.rest p.waiting (p.fill (.number v)) outer)
  | minus (p : Pending) (outer : List Pending) (h : p.signs + levels outer < limit) :
    Transition limit (.operand p outer) (.operator .sub) (.operand p.negate outer)
  | leftParen (p : Pending) (outer : List Pending) (h : p.signs + levels outer < limit) :
    Transition limit (.operand p outer) .leftParen (.operand .start (p :: outer))
  | operator (waiting : List (Derivation .product × Additive)) (t : Derivation .product)
      (outer : List Pending) (op : Operator) :
    Transition limit (.rest waiting t outer) (.operator op) (.operand (.after waiting t op) outer)
  | rightParen (waiting : List (Derivation .product × Additive)) (t : Derivation .product)
      (p : Pending) (outer : List Pending) :
    Transition limit (.rest waiting t (p :: outer)) .rightParen
      (.rest p.waiting (p.fill (.group (regroup waiting (.ofProduct t)))) outer)

theorem transition_of_step {limit : Nat} {s s' : State} {item : Lexeme}
    (h : (automaton limit).step s item = .ok s') : Transition limit s item.token s' := by
  obtain ⟨token, span⟩ := item
  cases s with
  | operand p outer =>
    cases token with
    | rightParen => cases h
    | number v =>
      cases h
      exact .number p outer v
    | leftParen =>
      by_cases hlt : p.signs + levels outer < limit
      · rw [step_leftParen span hlt] at h
        cases h
        exact .leftParen p outer hlt
      · rw [step_leftParen_tooDeep span (Nat.not_lt.1 hlt)] at h
        cases h
    | operator op =>
      cases op with
      | add => cases h
      | mul => cases h
      | div => cases h
      | sub =>
        by_cases hlt : p.signs + levels outer < limit
        · rw [step_minus span hlt] at h
          cases h
          exact .minus p outer hlt
        · rw [step_minus_tooDeep span (Nat.not_lt.1 hlt)] at h
          cases h
  | rest waiting t outer =>
    cases token with
    | number v => cases h
    | leftParen => cases h
    | operator op =>
      cases h
      exact .operator waiting t outer op
    | rightParen =>
      cases outer with
      | nil => cases h
      | cons p outer =>
        cases h
        exact .rightParen waiting t p outer

/-! ## The tokens read so far -/

/-- The tokens of the products that wait, with their operators. -/
def waitingTokens : List (Derivation .product × Additive) → List Token
  | [] => []
  | (t, op) :: waiting => waitingTokens waiting ++ (t.tokens ++ [.operator op.1])

/-- The tokens of a chain that waits for an operand. -/
def Pending.tokens (p : Pending) : List Token :=
  waitingTokens p.waiting ++
    ((match p.factor with
      | none => []
      | some (t, op) => t.tokens ++ [.operator op.1]) ++
    List.replicate p.signs (.operator .sub))

/-- The tokens of chains that wait for a group. -/
def outerTokens : List Pending → List Token
  | [] => []
  | p :: outer => outerTokens outer ++ (p.tokens ++ [.leftParen])

/-- The tokens that lead to a state. -/
def State.tokens : State → List Token
  | .operand p outer => outerTokens outer ++ p.tokens
  | .rest waiting t outer => outerTokens outer ++ (waitingTokens waiting ++ t.tokens)

theorem waitingTokens_fill (p : Pending) (t : Derivation .single) :
    waitingTokens p.waiting ++ (p.fill t).tokens = p.tokens ++ t.tokens := by
  obtain ⟨waiting, factor, signs⟩ := p
  rcases factor with _ | ⟨lhs, op⟩ <;>
    simp [Pending.fill, Pending.tokens, Derivation.tokens, Derivation.tokens_signed]

theorem tokens_regroup (waiting : List (Derivation .product × Additive)) (t : Derivation .sum) :
    (regroup waiting t).tokens = waitingTokens waiting ++ t.tokens := by
  induction waiting generalizing t with
  | nil => rfl
  | cons entry waiting ih =>
    obtain ⟨lhs, op⟩ := entry
    rw [regroup, List.foldl_cons, ← regroup, ih, Derivation.tokens, waitingTokens]
    simp

theorem tokens_after (waiting : List (Derivation .product × Additive)) (t : Derivation .product)
    (op : Operator) : (Pending.after waiting t op).tokens =
      waitingTokens waiting ++ (t.tokens ++ [.operator op]) := by
  cases h : op.precedence with
  | additive => simp [after_additive waiting t h, Pending.tokens, waitingTokens]
  | multiplicative => simp [after_multiplicative waiting t h, Pending.tokens]

/-- A step adds its token to those read so far. -/
theorem tokens_step {limit : Nat} {s s' : State} {item : Lexeme}
    (h : (automaton limit).step s item = .ok s') : s'.tokens = s.tokens ++ [item.token] := by
  obtain ⟨token, span⟩ := item
  cases transition_of_step h with
  | number p outer v =>
    rw [State.tokens, State.tokens, waitingTokens_fill, List.append_assoc]
    rfl
  | minus p outer _ =>
    simp [State.tokens, Pending.negate, Pending.tokens, List.replicate_succ']
  | leftParen p outer _ =>
    simp [State.tokens, outerTokens, Pending.start, Pending.tokens, waitingTokens]
  | operator waiting t outer op =>
    rw [State.tokens, State.tokens, tokens_after]
    simp
  | rightParen waiting t p outer =>
    rw [State.tokens, State.tokens, waitingTokens_fill, outerTokens, Derivation.tokens,
      tokens_regroup]
    simp [Derivation.tokens]

/-- What has been read is complete between operators, outside of all groups. -/
theorem rest_of_finish_eq_ok {limit : Nat} {s : State} {t : Derivation .sum}
    (h : (automaton limit).finish s = .ok t) :
    ∃ waiting last, s = .rest waiting last [] ∧ t = regroup waiting (.ofProduct last) := by
  rcases s with ⟨⟨_ | _, _ | _, _ | _⟩, _ | _⟩ | ⟨waiting, last, _ | ⟨p, outer⟩⟩ <;> cases h
  exact ⟨waiting, last, rfl, rfl⟩

theorem tokens_finish {limit : Nat} {s : State} {t : Derivation .sum}
    (h : (automaton limit).finish s = .ok t) : t.tokens = s.tokens := by
  obtain ⟨waiting, last, rfl, rfl⟩ := rest_of_finish_eq_ok h
  rw [tokens_regroup]
  rfl

/-- A state and a derivation record the tokens that have been read. -/
theorem records_automaton (limit : Nat) :
    (automaton limit).Records (fun s tokens => s.tokens = tokens)
      (fun t tokens => t.tokens = tokens) where
  start := rfl
  step := by
    rintro s _ item s' rfl h
    exact tokens_step h
  finish := by
    rintro s _ t rfl h
    exact tokens_finish h

end Reckoner.Infixed
