import Reckoner.Notation.Grouped
import Reckoner.Notation.Infixed
import Reckoner.Notation.Prefixed
import Reckoner.Proofs.Infixed.Tree
import Reckoner.Proofs.Nesting.Plan

/-!
# What the nesting limit does

The prefix, the fully parenthesised and the infix notation take a limit on the
number of levels that may be open inside of each other.  Each of them follows a
plan that knows nothing of the limit, and so the limit never does more than
replace an outcome by `tooDeep` (`limit_transparent`): it does so exactly where
the evaluation without a limit first opens a level inside of `limit` others, and
a larger limit leaves every other outcome as it is.

Chains of operators open no levels.  An infix expression is never too deep for
the number of its operators, only for its minus signs and parentheses.
-/

namespace Reckoner

open Reading

/-! ## Evaluations that follow a plan -/

namespace Plan

/-- The levels that a plan opens on a list of lexemes, with or without a limit. -/
def openings (p : Plan) (limit : Option Nat) (items : List Lexeme) : List Opening :=
  (p.trace limit 0 (.ofList items)).openings

/-- The outcome of a plan on a list of lexemes, with or without a limit. -/
def outcome (p : Plan) (limit : Option Nat) (items : List Lexeme) : Except Fault Number :=
  Reading.outcome (p.trace limit 0 (.ofList items)).result

/-- The first level that is opened inside of `limit` others. -/
def firstWithin? (limit : Nat) (openings : List Opening) : Option Opening :=
  openings.find? (·.around = limit)

variable {limit : Nat} {free cut : Trace}

theorem firstWithin?_of_lt {openings : List Opening} (h : ∀ o ∈ openings, o.around < limit) :
    firstWithin? limit openings = none := by
  rw [firstWithin?, List.find?_eq_none]
  intro o ho
  have hlt := h o ho
  simp only [decide_eq_true_eq]
  omega

theorem IsCut.eq_of_none (h : IsCut limit free cut)
    (hnone : firstWithin? limit free.openings = none) : cut = free := by
  cases h with
  | whole h => rfl
  | @tooDeep before after o c hfree hbefore ho =>
    have hmem : o ∈ free.openings := by simp [hfree]
    exact absurd (decide_eq_true ho) (List.find?_eq_none.1 hnone o hmem)

theorem IsCut.around_lt_of_none (h : IsCut limit free cut)
    (hnone : firstWithin? limit free.openings = none) : ∀ o ∈ free.openings, o.around < limit :=
  h.eq_of_none hnone ▸ h.around_lt

theorem IsCut.result_of_some {o : Opening} (h : IsCut limit free cut)
    (hsome : firstWithin? limit free.openings = some o) :
    ∃ c, cut.result = .error (.tooDeep o.item.span) c := by
  cases h with
  | whole h =>
    rw [firstWithin?_of_lt h] at hsome
    cases hsome
  | @tooDeep before after o' c hfree hbefore ho =>
    have hskip : before.find? (·.around = limit) = none := firstWithin?_of_lt hbefore
    rw [firstWithin?, hfree, List.find?_append, hskip, Option.none_or,
      List.find?_cons_of_pos (by simpa using ho)] at hsome
    cases hsome
    exact ⟨c, rfl⟩

variable (p : Plan) (items : List Lexeme)

theorem isCut_ofList (limit : Nat) : IsCut limit (p.trace none 0 (.ofList items))
    (p.trace (some limit) 0 (.ofList items)) :=
  p.isCut_trace rfl (Nat.zero_le limit)

/-- Without a limit no outcome is too deep. -/
theorem outcome_none_ne_tooDeep (span : Span) :
    p.outcome none items ≠ .error (.tooDeep span) := by
  have hne := p.trace_none_ne_tooDeep 0 (.ofList items)
  rw [outcome]
  cases h : (p.trace none 0 (.ofList items)).result with
  | ok v c => nofun
  | error fault c =>
    rintro ⟨⟩
    exact hne c span h

variable {p items}

theorem outcome_of_none (h : firstWithin? limit (p.openings none items) = none) :
    p.outcome (some limit) items = p.outcome none items := by
  rw [outcome, (p.isCut_ofList items limit).eq_of_none h, ← outcome]

theorem outcome_of_some {o : Opening} (h : firstWithin? limit (p.openings none items) = some o) :
    p.outcome (some limit) items = .error (.tooDeep o.item.span) := by
  obtain ⟨c, hc⟩ := (p.isCut_ofList items limit).result_of_some h
  rw [outcome, hc]
  rfl

/-- A limit makes the outcome too deep exactly where a level is first opened
inside of `limit` others. -/
theorem outcome_eq_tooDeep_iff {span : Span} :
    p.outcome (some limit) items = .error (.tooDeep span) ↔
      ∃ o, firstWithin? limit (p.openings none items) = some o ∧ o.item.span = span := by
  constructor
  · intro hdeep
    cases h : firstWithin? limit (p.openings none items) with
    | none =>
      rw [outcome_of_none h] at hdeep
      exact absurd hdeep (p.outcome_none_ne_tooDeep items span)
    | some o =>
      rw [outcome_of_some h] at hdeep
      cases hdeep
      exact ⟨o, rfl, rfl⟩
  · rintro ⟨o, ho, rfl⟩
    exact outcome_of_some ho

theorem firstWithin?_eq_none
    (h : ∀ span, p.outcome (some limit) items ≠ .error (.tooDeep span)) :
    firstWithin? limit (p.openings none items) = none := by
  cases ho : firstWithin? limit (p.openings none items) with
  | none => rfl
  | some o => exact absurd (outcome_of_some ho) (h o.item.span)

/-- A limit that is large enough may be larger. -/
theorem outcome_of_le {limit' : Nat} (hle : limit ≤ limit')
    (h : ∀ span, p.outcome (some limit) items ≠ .error (.tooDeep span)) :
    p.outcome (some limit') items = p.outcome (some limit) items := by
  have hfits := firstWithin?_eq_none h
  have hroom := (p.isCut_ofList items limit).around_lt_of_none hfits
  have hfits' : firstWithin? limit' (p.openings none items) = none :=
    firstWithin?_of_lt fun o ho => Nat.lt_of_lt_of_le (hroom o ho) hle
  rw [outcome_of_none hfits', outcome_of_none hfits]

end Plan

/-- What a limit does to an evaluation that follows a plan: it only ever replaces
an outcome by `tooDeep`. -/
structure TransparentLimit (evaluate : List Lexeme → (limit : Nat) → Except Fault Number)
    (plan : List Lexeme → Plan) : Prop where
  /-- The evaluation does what is planned, under the limit. -/
  planned : ∀ items limit, evaluate items limit = (plan items).outcome (some limit) items
  /-- It is too deep exactly where the plan without a limit first opens a level
  inside of `limit` others. -/
  tooDeep_iff : ∀ items limit span, evaluate items limit = .error (.tooDeep span) ↔
    ∃ o, Plan.firstWithin? limit ((plan items).openings none items) = some o ∧ o.item.span = span
  /-- Otherwise it is the evaluation without a limit. -/
  unlimited : ∀ items limit, (∀ span, evaluate items limit ≠ .error (.tooDeep span)) →
    evaluate items limit = (plan items).outcome none items
  /-- Larger limits do not change it any more. -/
  stable : ∀ items limit limit', limit ≤ limit' →
    (∀ span, evaluate items limit ≠ .error (.tooDeep span)) →
      evaluate items limit' = evaluate items limit
  /-- No level is opened inside of `limit` others. -/
  bounded : ∀ items limit, ∀ o ∈ (plan items).openings (some limit) items, o.around < limit

/-- Every evaluation that follows a plan has a transparent limit. -/
theorem Plan.transparentLimit {evaluate : List Lexeme → (limit : Nat) → Except Fault Number}
    {plan : List Lexeme → Plan}
    (h : ∀ items limit, evaluate items limit = (plan items).outcome (some limit) items) :
    TransparentLimit evaluate plan where
  planned := h
  tooDeep_iff items limit span := by
    rw [h]
    exact outcome_eq_tooDeep_iff
  unlimited items limit hne := by
    simp only [h] at hne ⊢
    exact outcome_of_none (firstWithin?_eq_none hne)
  stable items limit limit' hle hne := by
    simp only [h] at hne ⊢
    exact outcome_of_le hle hne
  bounded items limit := ((plan items).isCut_ofList items limit).around_lt

/-! ## The plans of the notations -/

namespace Prefixed

/-- The plan of one expression. -/
def expressionPlan : (bound : Nat) → Plan
  | 0 => .fail .unexpectedEnd rfl
  | bound + 1 => .flat nextItem flat_nextItem fun item =>
    match item.token with
    | .number n => .done n
    | .operator op =>
      .nested item
        ((expressionPlan bound).bind fun lhs => (expressionPlan bound).bind fun rhs =>
          .done (op.apply lhs rhs)) .done
    | token => .fail (.unexpectedToken token item.span) rfl

theorem run_expressionPlan (limit bound : Nat) :
    (expressionPlan bound).run limit = expression limit bound := by
  induction bound with
  | zero => exact Plan.run_fail ..
  | succ bound ih =>
    rw [expressionPlan, Plan.run, expression]
    refine congrArg (nextItem >>= ·) (funext fun item => ?_)
    obtain ⟨token, span⟩ := item
    cases token with
    | number n => rfl
    | leftParen => exact Plan.run_fail ..
    | rightParen => exact Plan.run_fail ..
    | operator op =>
      dsimp only
      simp only [Plan.run, Plan.run_bind, ih, bind_pure]

/-- The plan of a whole expression. -/
def plan (items : List Lexeme) : Plan := (expressionPlan items.length).whole

/-- The notation follows its plan. -/
theorem evaluate_eq_outcome (items : List Lexeme) (limit : Nat) :
    evaluate items limit = (plan items).outcome (some limit) items := by
  rw [evaluate, ← run_expressionPlan, Plan.evaluate_run, plan, Plan.outcome, Plan.result_trace]

end Prefixed

namespace Grouped

/-- The plan of one expression. -/
def expressionPlan : (bound : Nat) → Plan
  | 0 => .fail .unexpectedEnd rfl
  | bound + 1 => .flat nextItem flat_nextItem fun item =>
    match item.token with
    | .number n => .done n
    | .leftParen =>
      .nested item
        ((expressionPlan bound).bind fun lhs => .flat expectOperator flat_expectOperator fun op =>
          (expressionPlan bound).bind fun rhs =>
            .flat (expectToken .rightParen) (flat_expectToken _) fun _ =>
              .done (op.apply lhs rhs)) .done
    | token => .fail (.unexpectedToken token item.span) rfl

theorem run_expressionPlan (limit bound : Nat) :
    (expressionPlan bound).run limit = expression limit bound := by
  induction bound with
  | zero => exact Plan.run_fail ..
  | succ bound ih =>
    rw [expressionPlan, Plan.run, expression]
    refine congrArg (nextItem >>= ·) (funext fun item => ?_)
    obtain ⟨token, span⟩ := item
    cases token with
    | number n => rfl
    | operator op => exact Plan.run_fail ..
    | rightParen => exact Plan.run_fail ..
    | leftParen =>
      dsimp only
      simp only [Plan.run, Plan.run_bind, ih, bind_pure]

/-- The plan of a whole expression. -/
def plan (items : List Lexeme) : Plan := (expressionPlan items.length).whole

/-- The notation follows its plan. -/
theorem evaluate_eq_outcome (items : List Lexeme) (limit : Nat) :
    evaluate items limit = (plan items).outcome (some limit) items := by
  rw [evaluate, ← run_expressionPlan, Plan.evaluate_run, plan, Plan.outcome, Plan.result_trace]

end Grouped

namespace Infixed

/-- The plan of the rest of a chain. -/
def chainRestPlan (operand : Plan) :
    (bound : Nat) → (waiting : List (Number × Operator)) → (value : Number) → Plan
  | 0, waiting, value => .done (settle waiting value)
  | bound + 1, waiting, value => .flat advance flat_advance fun
    | none => .done (settle waiting value)
    | some item =>
      match item.token with
      | .rightParen => .flat (closeGroup item.span) (flat_closeGroup _) fun _ =>
        .done (settle waiting value)
      | .operator op => operand.bind fun next =>
        match op.precedence with
        | .additive => chainRestPlan operand bound ((value, op) :: waiting) next
        | .multiplicative => chainRestPlan operand bound waiting (op.apply value next)
      | token => .fail (.unexpectedToken token item.span) rfl

/-- The plan of a chain. -/
def chainPlan (operand : Plan) (bound : Nat) : Plan :=
  operand.bind fun first => chainRestPlan operand bound [] first

/-- The plan of one operand. -/
def operandPlan : (bound : Nat) → Plan
  | 0 => .fail .unexpectedEnd rfl
  | bound + 1 => .flat nextItem flat_nextItem fun item =>
    match item.token with
    | .number n => .done n
    | .operator .sub => .nested item (operandPlan bound) fun value => .done (-value)
    | .leftParen => .flat openGroup flat_openGroup fun _ =>
      .nested item (chainPlan (operandPlan bound) bound) .done
    | token => .fail (.unexpectedToken token item.span) rfl

theorem run_chainRestPlan (limit : Nat) (operand : Plan) (bound : Nat)
    (waiting : List (Number × Operator)) (value : Number) :
    (chainRestPlan operand bound waiting value).run limit =
      chainRest (operand.run limit) bound waiting value := by
  induction bound generalizing waiting value with
  | zero => rfl
  | succ bound ih =>
    rw [chainRestPlan, Plan.run, chainRest]
    refine congrArg (advance >>= ·) (funext fun item? => ?_)
    rcases item? with _ | ⟨token, span⟩
    · rfl
    · cases token with
      | number n => exact Plan.run_fail ..
      | leftParen => exact Plan.run_fail ..
      | rightParen => rfl
      | operator op =>
        dsimp only
        rw [Plan.run_bind]
        refine congrArg (operand.run limit >>= ·) (funext fun next => ?_)
        cases op.precedence with
        | additive => exact ih ..
        | multiplicative => exact ih ..

theorem run_chainPlan (limit : Nat) (operand : Plan) (bound : Nat) :
    (chainPlan operand bound).run limit = chain (operand.run limit) bound := by
  rw [chainPlan, Plan.run_bind, chain]
  simp only [run_chainRestPlan]

theorem run_operandPlan (limit bound : Nat) :
    (operandPlan bound).run limit = operand limit bound := by
  induction bound with
  | zero => exact Plan.run_fail ..
  | succ bound ih =>
    rw [operandPlan, Plan.run, operand]
    refine congrArg (nextItem >>= ·) (funext fun item => ?_)
    obtain ⟨token, span⟩ := item
    cases token with
    | number n => rfl
    | rightParen => exact Plan.run_fail ..
    | leftParen =>
      dsimp only
      simp only [Plan.run, run_chainPlan, ih, bind_pure]
    | operator op =>
      cases op with
      | add => exact Plan.run_fail ..
      | mul => exact Plan.run_fail ..
      | div => exact Plan.run_fail ..
      | sub =>
        dsimp only
        simp only [Plan.run, ih]

/-- The plan of a whole expression. -/
def plan (items : List Lexeme) : Plan := (chainPlan (operandPlan items.length) items.length).whole

/-- The notation follows its plan. -/
theorem evaluate_eq_outcome (items : List Lexeme) (limit : Nat) :
    evaluate items limit = (plan items).outcome (some limit) items := by
  rw [evaluate, ← run_operandPlan, ← run_chainPlan, Plan.evaluate_run, plan, Plan.outcome,
    Plan.result_trace]

/-- Operators open no levels: operands that have room have a value together,
however many there are. -/
theorem evaluate_chain {limit : Nat} {items : List Lexeme} {first : Derivation .single}
    {more : List (Operator × Derivation .single)}
    (hi : items.map Lexeme.token =
      first.tokens ++ more.flatMap fun (op, next) => .operator op :: next.tokens)
    (hfirst : first.depth ≤ limit) (hmore : ∀ entry ∈ more, entry.2.depth ≤ limit) :
    ∃ v, evaluate items limit = .ok v := by
  refine ⟨_, evaluate_eq_ok_iff.2 ⟨.chain (.ofSingle first) more, ?_, ?_, rfl⟩⟩
  · rw [Derivation.tokens_chain, hi, Derivation.tokens]
  · exact Derivation.depth_chain_le hfirst hmore

end Infixed

/-- **The nesting limit is transparent.**  Under a limit each notation does what
it does without one, except that the first level to be opened inside of `limit`
others is refused; and infix operators open none. -/
theorem limit_transparent :
    TransparentLimit (fun items limit => Prefixed.evaluate items limit) Prefixed.plan ∧
    TransparentLimit (fun items limit => Grouped.evaluate items limit) Grouped.plan ∧
    TransparentLimit (fun items limit => Infixed.evaluate items limit) Infixed.plan ∧
    ∀ (limit : Nat) (items : List Lexeme) (first : Infixed.Derivation .single)
      (more : List (Operator × Infixed.Derivation .single)),
      (items.map Lexeme.token =
        first.tokens ++ more.flatMap fun (op, next) => .operator op :: next.tokens) →
      first.depth ≤ limit → (∀ entry ∈ more, entry.2.depth ≤ limit) →
        ∃ v, Infixed.evaluate items limit = .ok v :=
  ⟨Plan.transparentLimit Prefixed.evaluate_eq_outcome,
    Plan.transparentLimit Grouped.evaluate_eq_outcome,
    Plan.transparentLimit Infixed.evaluate_eq_outcome,
    fun _ _ _ _ hi hfirst hmore => Infixed.evaluate_chain hi hfirst hmore⟩

/-- The minus sign in `-(7` opens a level outside of all others, the parenthesis
one inside of it. -/
example :
    let items : List Lexeme :=
      [⟨.operator .sub, .single 0⟩, ⟨.leftParen, .single 1⟩, ⟨.number (.integer 7), .single 2⟩]
    ((Infixed.plan items).openings none items).map (·.around) = [0, 1] ∧
      Infixed.evaluate items 1 = .error (.tooDeep (.single 1)) ∧
      Infixed.evaluate items 2 = .error (.unclosedParen 1) :=
  ⟨by decide +kernel, rfl, rfl⟩

end Reckoner
