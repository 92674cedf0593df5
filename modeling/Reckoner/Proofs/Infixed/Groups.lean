import Reckoner.Proofs.Grouped.Grammar
import Reckoner.Proofs.Infixed.Acceptance
import Reckoner.Proofs.Infixed.Simulation

/-!
# Open groups of infix expressions

The infix notation counts the parentheses that are opened and not yet closed, in
one number for the whole expression, and a chain ends at a closing parenthesis or
with the lexemes without knowing what it belongs to.  Still the count is exact:
between two lexemes it is the number of chains that wait around the current one,
which is the number of opening parentheses less that of closing ones
(`records_groups`).

So a parenthesis is refused as unbalanced exactly after a complete expression,
and what lacks `n` closing parentheses becomes complete by `n` more of them and
not by fewer (`evaluate_groups`).  Lexemes are never left over behind an
expression, because the outermost chain does not end before the lexemes do.
-/

namespace Reckoner.Infixed

open Grouped (openGroups)

variable {limit : Nat} {items : List Lexeme}

/-! ## The count of a state -/

namespace State

/-- The chains around the one that is being read, one for each open group. -/
def outer : State → List Pending
  | operand _ outer => outer
  | rest _ _ outer => outer

/-- The number of levels that are open. -/
def depth : State → Nat
  | operand p outer => p.signs + levels outer
  | rest _ _ outer => levels outer

end State

theorem length_le_levels (outer : List Pending) : outer.length ≤ levels outer := by
  induction outer with
  | nil => exact Nat.le_refl 0
  | cons p outer ih =>
    rw [List.length_cons, levels_cons]
    omega

/-- A step adds the parenthesis it reads to the count. -/
theorem openGroups_step {s s' : State} {item : Lexeme}
    (h : (automaton limit).step s item = .ok s') :
    (s'.outer.length : Int) = s.outer.length + openGroups [item.token] := by
  obtain ⟨token, span⟩ := item
  cases transition_of_step h with
  | number p outer v => simp [State.outer]
  | minus p outer _ => simp [State.outer]
  | leftParen p outer _ => simp [State.outer]
  | operator waiting t outer op => simp [State.outer]
  | rightParen waiting t p outer =>
    simp only [State.outer, List.length_cons, Grouped.openGroups_rightParen_cons,
      Grouped.openGroups_nil]
    omega

/-- No step leads beyond the limit. -/
theorem depth_step_le {s s' : State} {item : Lexeme} (hs : s.depth ≤ limit)
    (h : (automaton limit).step s item = .ok s') : s'.depth ≤ limit := by
  obtain ⟨token, span⟩ := item
  cases transition_of_step h with
  | number p outer v =>
    simp only [State.depth] at hs ⊢
    omega
  | minus p outer hroom =>
    simp only [State.depth, Pending.negate]
    omega
  | leftParen p outer hroom =>
    simp only [State.depth, Pending.start, levels_cons]
    omega
  | operator waiting t outer op =>
    simp only [State.depth, signs_after] at hs ⊢
    omega
  | rightParen waiting t p outer =>
    simp only [State.depth, levels_cons] at hs ⊢
    omega

/-- The open groups of a state are those of the tokens that led to it, and there
are not more of them than levels may be open. -/
def CountsGroups (limit : Nat) (s : State) (tokens : List Token) : Prop :=
  openGroups tokens = s.outer.length ∧ s.depth ≤ limit

/-- **The count is exact.** -/
theorem records_groups (limit : Nat) :
    (automaton limit).Records (CountsGroups limit) fun _ tokens => openGroups tokens = 0 where
  start := ⟨rfl, Nat.zero_le _⟩
  step := by
    rintro s tokens item s' ⟨hcount, hdepth⟩ h
    refine ⟨?_, depth_step_le hdepth h⟩
    rw [Grouped.openGroups_append, hcount, openGroups_step h]
  finish := by
    rintro s tokens t ⟨hcount, -⟩ h
    obtain ⟨waiting, last, rfl, -⟩ := rest_of_finish_eq_ok h
    exact hcount

/-! ## The faults of the automaton -/

/-- The faults that a lexeme can have. -/
inductive Refusal : State → Lexeme → Fault → Prop where
  | unexpectedToken (s : State) (item : Lexeme) :
    Refusal s item (.unexpectedToken item.token item.span)
  | tooDeep (s : State) (item : Lexeme) : Refusal s item (.tooDeep item.span)
  | unbalancedParen (waiting : List (Derivation .product × Additive)) (t : Derivation .product)
      (span : Span) : Refusal (.rest waiting t []) ⟨.rightParen, span⟩ (.unbalancedParen span)

theorem refusal_of_step {s : State} {item : Lexeme} {fault : Fault}
    (h : (automaton limit).step s item = .error fault) : Refusal s item fault := by
  obtain ⟨token, span⟩ := item
  cases s with
  | operand p outer =>
    cases token with
    | number v => cases h
    | rightParen =>
      cases h
      exact .unexpectedToken _ ⟨.rightParen, span⟩
    | leftParen =>
      by_cases hroom : p.signs + levels outer < limit
      · rw [step_leftParen span hroom] at h
        cases h
      · rw [step_leftParen_tooDeep span (Nat.not_lt.1 hroom)] at h
        cases h
        exact .tooDeep _ ⟨.leftParen, span⟩
    | operator op =>
      by_cases hsub : op = .sub
      · subst hsub
        by_cases hroom : p.signs + levels outer < limit
        · rw [step_minus span hroom] at h
          cases h
        · rw [step_minus_tooDeep span (Nat.not_lt.1 hroom)] at h
          cases h
          exact .tooDeep _ ⟨.operator .sub, span⟩
      · have hfault : fault = .unexpectedToken (.operator op) span := by
          cases op <;> first | exact absurd rfl hsub | (cases h; rfl)
        rw [hfault]
        exact .unexpectedToken _ ⟨.operator op, span⟩
  | rest waiting t outer =>
    cases token with
    | operator op => cases h
    | number v =>
      cases h
      exact .unexpectedToken _ ⟨.number v, span⟩
    | leftParen =>
      cases h
      exact .unexpectedToken _ ⟨.leftParen, span⟩
    | rightParen =>
      cases outer with
      | cons p outer => cases h
      | nil =>
        cases h
        exact .unbalancedParen waiting t span

/-- Where the lexemes end, groups are missing only their ends if the chains can
end as well. -/
theorem rest_of_finish_eq_unclosedParen {s : State} {n : Nat}
    (h : (automaton limit).finish s = .error (.unclosedParen n)) :
    ∃ waiting t outer, s = .rest waiting t outer ∧ outer.length = n ∧ 1 ≤ n := by
  rcases s with ⟨⟨_ | _, _ | _, _ | _⟩, _ | _⟩ | ⟨waiting, t, _ | ⟨p, outer⟩⟩ <;> cases h
  exact ⟨waiting, t, p :: outer, rfl, rfl, Nat.succ_pos _⟩

/-- Behind a complete expression a closing parenthesis has nothing to close. -/
theorem step_rightParen_of_finish_eq_ok {s : State} {t : Derivation .sum}
    (h : (automaton limit).finish s = .ok t) (span : Span) :
    (automaton limit).step s ⟨.rightParen, span⟩ = .error (.unbalancedParen span) := by
  obtain ⟨waiting, last, rfl, -⟩ := rest_of_finish_eq_ok h
  rfl

/-- Each closing parenthesis ends one of the chains that are open. -/
theorem feed_closing (limit : Nat) {closing : List Lexeme}
    (h : ∀ item ∈ closing, item.token = .rightParen)
    (waiting : List (Derivation .product × Additive)) (t : Derivation .product)
    {outer : List Pending} (hle : closing.length ≤ outer.length) : ∃ waiting' t',
      (automaton limit).feed (.rest waiting t outer) closing =
        .ok (.rest waiting' t' (outer.drop closing.length)) := by
  induction closing generalizing waiting t outer with
  | nil => exact ⟨waiting, t, rfl⟩
  | cons item closing ih =>
    obtain ⟨hitem, hclosing⟩ := List.forall_mem_cons.1 h
    obtain ⟨token, span⟩ := item
    obtain rfl : token = .rightParen := hitem
    cases outer with
    | nil => exact absurd hle (Nat.not_succ_le_zero _)
    | cons p outer =>
      obtain ⟨waiting', t', hf⟩ := ih hclosing p.waiting
        (p.fill (.group (regroup waiting (.ofProduct t)))) (Nat.le_of_succ_le_succ hle)
      exact ⟨waiting', t', by rw [Automaton.feed_cons (step_rightParen ..), hf]; rfl⟩

/-! ## Parentheses of an expression -/

theorem evaluate_ne_unfinished (items : List Lexeme) (limit : Nat) (token : Token) (span : Span) :
    evaluate items limit ≠ .error (.unfinished token span) := by
  rw [evaluate_eq_map_run, Ne, Automaton.map_run_eq_error_iff]
  intro h
  obtain ⟨before, item, after, s, -, -, hs⟩ := (viable_automaton limit).step_of_span_eq_some h rfl
  cases refusal_of_step hs

theorem openGroups_of_evaluate {v : Number} (h : evaluate items limit = .ok v) :
    openGroups (items.map Lexeme.token) = 0 := by
  rw [evaluate_eq_map_run] at h
  obtain ⟨t, hrun, -⟩ := Automaton.map_run_eq_ok_iff.1 h
  exact (records_groups limit).run hrun

theorem evaluate_append_rightParen {v : Number} (h : evaluate items limit = .ok v) (span : Span)
    (more : List Lexeme) :
    evaluate (items ++ ⟨.rightParen, span⟩ :: more) limit = .error (.unbalancedParen span) := by
  rw [evaluate_eq_map_run] at h ⊢
  exact Automaton.map_run_append_cons_error h
    (fun _ _ hs => step_rightParen_of_finish_eq_ok hs span) more

/-- What stands before an unbalanced parenthesis is complete. -/
theorem exists_of_evaluate_eq_unbalancedParen {span : Span}
    (h : evaluate items limit = .error (.unbalancedParen span)) : ∃ before after v,
      items = before ++ ⟨.rightParen, span⟩ :: after ∧ evaluate before limit = .ok v := by
  rw [evaluate_eq_map_run, Automaton.map_run_eq_error_iff] at h
  obtain ⟨before, item, after, s, rfl, hf, hs⟩ :=
    (viable_automaton limit).step_of_span_eq_some h rfl
  cases refusal_of_step hs with
  | unbalancedParen waiting t _ =>
    refine ⟨before, after, (regroup waiting (.ofProduct t)).value, rfl, ?_⟩
    rw [evaluate_eq_map_run, Automaton.run_of_feed hf]
    rfl

/-- Groups are left open by lexemes that end between two operands. -/
theorem exists_of_evaluate_eq_unclosedParen {n : Nat}
    (h : evaluate items limit = .error (.unclosedParen n)) : ∃ waiting t outer,
      (automaton limit).feed (automaton limit).start items = .ok (.rest waiting t outer) ∧
        outer.length = n ∧ 1 ≤ n := by
  rw [evaluate_eq_map_run, Automaton.map_run_eq_error_iff] at h
  obtain ⟨s, hf, hs⟩ := (viable_automaton limit).finish_of_span_eq_none h rfl
  obtain ⟨waiting, t, outer, rfl, hlength, hpos⟩ := rest_of_finish_eq_unclosedParen hs
  exact ⟨waiting, t, outer, hf, hlength, hpos⟩

theorem openGroups_of_evaluate_eq_unclosedParen {n : Nat}
    (h : evaluate items limit = .error (.unclosedParen n)) :
    n ≤ limit ∧ openGroups (items.map Lexeme.token) = n := by
  obtain ⟨waiting, t, outer, hf, rfl, -⟩ := exists_of_evaluate_eq_unclosedParen h
  obtain ⟨hcount, hdepth⟩ := (records_groups limit).feed (records_groups limit).start hf
  exact ⟨Nat.le_trans (length_le_levels outer) hdepth, hcount⟩

/-- Closing parentheses make up for the groups that are left open. -/
theorem evaluate_append_closing {n : Nat} (h : evaluate items limit = .error (.unclosedParen n))
    {closing : List Lexeme} (hclosing : ∀ item ∈ closing, item.token = .rightParen)
    (hle : closing.length ≤ n) :
    ∃ t, evaluate (items ++ closing) limit = (ended (n - closing.length) t).map Derivation.value := by
  obtain ⟨waiting, t, outer, hf, rfl, -⟩ := exists_of_evaluate_eq_unclosedParen h
  obtain ⟨waiting', t', hclosed⟩ := feed_closing limit hclosing waiting t hle
  refine ⟨regroup waiting' (.ofProduct t'), ?_⟩
  rw [evaluate_eq_map_run, Automaton.run, Automaton.runFrom_append hf, Automaton.runFrom, hclosed,
    ← List.length_drop]
  rfl

/-- **The count of open groups is exact.**  Lexemes are never left over.  An
expression with a value has as many opening as closing parentheses, and one more
closing parenthesis behind it is unbalanced, whatever follows; an unbalanced
parenthesis always stands behind an expression with a value.  If `n` groups are
left open, then `n` is the number of opening less that of closing parentheses,
between one and the limit; fewer than `n` closing parentheses leave the others
open, and exactly `n` make an expression with a value. -/
theorem evaluate_groups (items : List Lexeme) (limit : Nat) :
    (∀ token span, evaluate items limit ≠ .error (.unfinished token span)) ∧
    (∀ v, evaluate items limit = .ok v → openGroups (items.map Lexeme.token) = 0 ∧
      ∀ span more, evaluate (items ++ ⟨.rightParen, span⟩ :: more) limit =
        .error (.unbalancedParen span)) ∧
    (∀ span, evaluate items limit = .error (.unbalancedParen span) → ∃ before after v,
      items = before ++ ⟨.rightParen, span⟩ :: after ∧ evaluate before limit = .ok v) ∧
    (∀ n, evaluate items limit = .error (.unclosedParen n) → 1 ≤ n ∧ n ≤ limit ∧
      openGroups (items.map Lexeme.token) = n ∧
      ∀ closing : List Lexeme, (∀ item ∈ closing, item.token = .rightParen) →
        (closing.length < n → evaluate (items ++ closing) limit =
          .error (.unclosedParen (n - closing.length))) ∧
        (closing.length = n → ∃ v, evaluate (items ++ closing) limit = .ok v)) := by
  refine ⟨evaluate_ne_unfinished items limit, fun v h => ?_,
    fun span h => exists_of_evaluate_eq_unbalancedParen h, fun n h => ?_⟩
  · exact ⟨openGroups_of_evaluate h, evaluate_append_rightParen h⟩
  · obtain ⟨-, -, -, -, -, hpos⟩ := exists_of_evaluate_eq_unclosedParen h
    obtain ⟨hlimit, hcount⟩ := openGroups_of_evaluate_eq_unclosedParen h
    refine ⟨hpos, hlimit, hcount, fun closing hclosing => ⟨fun hlt => ?_, fun heq => ?_⟩⟩
    · obtain ⟨t, ht⟩ := evaluate_append_closing h hclosing (Nat.le_of_lt hlt)
      obtain ⟨left, hleft⟩ := Nat.exists_eq_add_of_lt hlt
      rw [show n - closing.length = left + 1 by omega] at ht ⊢
      exact ht
    · obtain ⟨t, ht⟩ := evaluate_append_closing h hclosing (Nat.le_of_eq heq)
      rw [heq, Nat.sub_self] at ht
      exact ⟨t.value, ht⟩

theorem evaluate_groups_two_left_open :
    evaluate ([⟨.leftParen, .single 0⟩, ⟨.leftParen, .single 1⟩,
      ⟨.number (.integer 7), .single 2⟩] ++ [⟨.rightParen, .single 3⟩]) =
        .error (.unclosedParen 1) :=
  ((evaluate_groups [⟨.leftParen, .single 0⟩, ⟨.leftParen, .single 1⟩,
    ⟨.number (.integer 7), .single 2⟩] _).2.2.2 2 rfl).2.2.2
      [⟨.rightParen, .single 3⟩] (by simp) |>.1 (by decide)

end Reckoner.Infixed
