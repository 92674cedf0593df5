import Reckoner.Proofs.Cursor.Simulation
import Reckoner.Proofs.Expression.Written

/-!
# The prefix notation as an automaton

The frames of the automaton are the operators whose operands are not complete,
the innermost first; an operator is `first` until its left operand has been
read and `second` from then on.  Reading an expression and running the automaton
come to the same (`evaluate_eq_map_run`); on the prefix form of a tree the
automaton reads the tree back (`feed_prefixed`), unless the tree is too high for
the limit, and then it stops at the first operator with `limit` others above it
(`feed_prefixed_tooDeep`).  For the evaluation of a written tree this is
`evaluate_prefixed` and `evaluate_prefixed_tooDeep`.
-/

namespace Reckoner.Prefixed

open Reading

/-- An operator whose operands are not complete. -/
inductive Frame where
  /-- The left operand is being read. -/
  | first (op : Operator)
  /-- The right operand is being read. -/
  | second (op : Operator) (lhs : Expression Number)

/-- What has been read of an expression. -/
inductive State where
  /-- An operand comes next. -/
  | operand (frames : List Frame)
  /-- The expression is complete. -/
  | complete (t : Expression Number)

/-- The state after an operand inside of `frames`. -/
def resume : List Frame → Expression Number → State
  | [], t => .complete t
  | .first op :: frames, t => .operand (.second op t :: frames)
  | .second op lhs :: frames, t => resume frames (.node op lhs t)

/-- What a lexeme does to a state. -/
def step (limit : Nat) : State → Lexeme → Except Fault State
  | .operand frames, item =>
    match item.token with
    | .number n => .ok (resume frames (.leaf n))
    | .operator op =>
      if frames.length < limit then .ok (.operand (.first op :: frames))
      else .error (.tooDeep item.span)
    | token => .error (.unexpectedToken token item.span)
  | .complete _, item => .error (.unfinished item.token item.span)

/-- The tree that has been read, when it is complete. -/
def finish : State → Except Fault (Expression Number)
  | .operand [] => .error .empty
  | .operand (_ :: _) => .error .unexpectedEnd
  | .complete t => .ok t

/-- The automaton of the prefix notation. -/
def automaton (limit : Nat) : Automaton State (Expression Number) where
  start := .operand []
  step := step limit
  finish := finish

variable {limit bound : Nat} {frames : List Frame}

theorem step_number (limit : Nat) (frames : List Frame) (v : Number) (span : Span) :
    (automaton limit).step (.operand frames) ⟨.number v, span⟩ = .ok (resume frames (.leaf v)) :=
  rfl

theorem step_operator (h : frames.length < limit) (op : Operator) (span : Span) :
    (automaton limit).step (.operand frames) ⟨.operator op, span⟩ =
      .ok (.operand (.first op :: frames)) :=
  if_pos h

theorem step_operator_tooDeep (h : limit ≤ frames.length) (op : Operator) (span : Span) :
    (automaton limit).step (.operand frames) ⟨.operator op, span⟩ = .error (.tooDeep span) :=
  if_neg (Nat.not_lt.2 h)

/-- The steps that lexemes allow. -/
inductive Transition (limit : Nat) : State → Token → State → Prop where
  | number (frames : List Frame) (v : Number) :
    Transition limit (.operand frames) (.number v) (resume frames (.leaf v))
  | operator (frames : List Frame) (op : Operator) (h : frames.length < limit) :
    Transition limit (.operand frames) (.operator op) (.operand (.first op :: frames))

theorem transition_of_step {s s' : State} {item : Lexeme}
    (h : (automaton limit).step s item = .ok s') : Transition limit s item.token s' := by
  obtain ⟨token, span⟩ := item
  cases s with
  | complete t => cases h
  | operand frames =>
    cases token with
    | leftParen => cases h
    | rightParen => cases h
    | number v =>
      cases h
      exact .number frames v
    | operator op =>
      by_cases hlt : frames.length < limit
      · rw [step_operator hlt] at h
        cases h
        exact .operator frames op hlt
      · rw [step_operator_tooDeep (Nat.not_lt.1 hlt)] at h
        cases h

/-! ## The reading, one lexeme at a time -/

section

variable (limit bound : Nat) (items : List Lexeme) (n g d : Nat) (span : Span)

theorem expression_nil :
    expression limit bound ⟨[], n, g, d⟩ = .error .unexpectedEnd ⟨[], n, g, d⟩ := by
  cases bound <;> rfl

theorem expression_number (v : Number) :
    expression limit (bound + 1) ⟨⟨.number v, span⟩ :: items, n, g, d⟩ =
      .ok v ⟨items, n + 1, g, d⟩ := rfl

theorem expression_operator (op : Operator) :
    expression limit (bound + 1) ⟨⟨.operator op, span⟩ :: items, n, g, d⟩ =
      nested limit span (do
        let lhs ← expression limit bound
        let rhs ← expression limit bound
        return op.apply lhs rhs) ⟨items, n + 1, g, d⟩ := rfl

end

/-! ## The reading and the automaton -/

/-- Reading an expression goes along with the automaton, inside of as many
frames as the cursor is deep. -/
theorem simulates_expression (limit : Nat) : ∀ (bound : Nat) (c : Cursor) (frames : List Frame),
    c.items.length ≤ bound → c.depth = frames.length → c.items ≠ [] ∨ frames ≠ [] →
      Simulates (automaton limit) (.operand frames) c (expression limit bound)
        (ReadsTree Expression.value (resume frames) c) := by
  -- where no lexeme is left, an operand is missing on both sides
  have ended : ∀ (bound n g d : Nat) (frames : List Frame), frames ≠ [] →
      Simulates (automaton limit) (.operand frames) ⟨[], n, g, d⟩ (expression limit bound)
        (ReadsTree Expression.value (resume frames) ⟨[], n, g, d⟩) := by
    intro bound n g d frames hne
    refine .of_error (expression_nil ..) ?_
    cases frames with
    | nil => exact absurd rfl hne
    | cons frame frames => rfl
  intro bound
  induction bound with
  | zero =>
    rintro ⟨items, n, g, d⟩ frames hb hd hne
    obtain rfl : items = [] := List.length_eq_zero_iff.1 (Nat.le_zero.1 hb)
    exact ended _ _ _ _ frames (by simpa using hne)
  | succ bound ih =>
    rintro ⟨items, n, g, d⟩ frames hb hd hne
    cases hd
    cases items with
    | nil => exact ended _ _ _ _ frames (by simpa using hne)
    | cons item items =>
      obtain ⟨token, span⟩ := item
      have hlen : items.length ≤ bound := by simpa using hb
      cases token with
      | number v =>
        exact .of_ok (expression_number ..) (Automaton.runFrom_cons (step_number ..))
          ⟨⟨.leaf v, rfl, rfl⟩, Nat.lt_succ_self _, rfl, rfl⟩
      | leftParen => exact .of_error rfl (Automaton.runFrom_cons_error rfl)
      | rightParen => exact .of_error rfl (Automaton.runFrom_cons_error rfl)
      | operator op =>
        by_cases hlt : frames.length < limit
        · refine .step (expression_operator ..)
            (Automaton.runFrom_cons (step_operator hlt op span)) (.nested hlt ?_)
          refine (ih _ (.first op :: frames) hlen rfl (.inr (List.cons_ne_nil _ _))).bind ?_
          rintro l c₁ _ ⟨⟨lhs, rfl, rfl⟩, hlen₁, hg₁, hd₁⟩
          refine (ih c₁ (.second op lhs :: frames) (by simp at hlen₁; omega) hd₁
            (.inr (List.cons_ne_nil _ _))).bind ?_
          rintro r c₂ _ ⟨⟨rhs, rfl, rfl⟩, hlen₂, hg₂, hd₂⟩
          refine .pure ⟨⟨.node op lhs rhs, rfl, rfl⟩, ?_, hg₂.trans hg₁, ?_⟩
          · simp at hlen₁ ⊢
            omega
          · simp [hd₂, hd₁]
        · have hge := Nat.not_lt.1 hlt
          exact .of_error ((expression_operator ..).trans (nested_of_le hge ..))
            (Automaton.runFrom_cons_error (step_operator_tooDeep hge op span))

/-- The value of a prefix expression is that of the tree the automaton reads. -/
theorem evaluate_eq_map_run (items : List Lexeme) (limit : Nat) :
    evaluate items limit = ((automaton limit).run items).map Expression.value := by
  have hread := simulates_expression limit items.length (.ofList items) [] (Nat.le_refl _) rfl
  refine Reading.evaluate_eq_map_run (ReadsTree Expression.value (resume []) (.ofList items)) rfl
    (fun v c s h => ?_) fun hne => hread (.inl hne)
  exact h.outcome_finish (fun _ => rfl) fun _ _ => rfl

/-! ## Runs on written trees -/

/-- The automaton reads back a tree that has room below the limit. -/
theorem feed_prefixed {t : Expression Number} : ∀ (frames : List Frame) {items : List Lexeme},
    Spells items t.prefixed → frames.length + t.height ≤ limit →
      (automaton limit).feed (.operand frames) items = .ok (resume frames t) := by
  induction t with
  | leaf v =>
    intro frames items hs hd
    obtain ⟨span, rfl⟩ := hs.of_prefixed_leaf
    exact Automaton.feed_cons (step_number ..)
  | node op lhs rhs ihl ihr =>
    intro frames items hs hd
    rw [Expression.height] at hd
    obtain ⟨span, left, right, rfl, hl, hr⟩ := hs.of_prefixed_node
    have hroom : frames.length < limit := by omega
    have hfitsLeft : (Frame.first op :: frames).length + lhs.height ≤ limit := by
      simp only [List.length_cons]
      omega
    have hfitsRight : (Frame.second op lhs :: frames).length + rhs.height ≤ limit := by
      simp only [List.length_cons]
      omega
    have hleft := ihl (.first op :: frames) hl hfitsLeft
    have hright := ihr (.second op lhs :: frames) hr hfitsRight
    rw [Automaton.feed_cons (step_operator hroom op span), Automaton.feed_append hleft, resume,
      hright, resume]

/-- On a tree that is too high the automaton stops at the first operator, in
reading order, with as many operators above it as there is room for. -/
theorem feed_prefixed_tooDeep {t : Expression Number} : ∀ (frames : List Frame)
    {items : List Lexeme}, Spells items t.prefixed → frames.length ≤ limit →
    limit < frames.length + t.height → ∃ path op item,
      t.firstBelow? (limit - frames.length) = some path ∧
      ((path, Piece.operator op), item) ∈ t.prefixedAt.zip items ∧
      (automaton limit).feed (.operand frames) items = .error (.tooDeep item.span) := by
  induction t with
  | leaf v =>
    intro frames items _ hle hlt
    rw [Expression.height] at hlt
    omega
  | node op lhs rhs ihl ihr =>
    intro frames items hs hle hlt
    rw [Expression.height] at hlt
    obtain ⟨span, left, right, rfl, hl, hr⟩ := hs.of_prefixed_node
    by_cases hroom : frames.length < limit
    · have hstep := step_operator hroom op span
      have hdepth : limit - frames.length = limit - (frames.length + 1) + 1 := by omega
      by_cases hleft : (Frame.first op :: frames).length + lhs.height ≤ limit
      · -- the left operand fits, so the right one does not
        have hright : limit < (Frame.second op lhs :: frames).length + rhs.height := by
          simp only [List.length_cons] at hleft ⊢
          omega
        have hlow : lhs.height ≤ limit - (frames.length + 1) := by
          simp only [List.length_cons] at hleft
          omega
        have hfeed := feed_prefixed (.first op :: frames) hl hleft
        obtain ⟨path, op', item, hp, hm, hf⟩ := ihr (.second op lhs :: frames) hr hroom hright
        refine ⟨.right :: path, op', item, ?_, hl.mem_zip_prefixedAt_right hm, ?_⟩
        · rw [hdepth]
          exact Expression.firstBelow?_node_of_right hlow hp
        · rw [Automaton.feed_cons hstep, Automaton.feed_append hfeed, resume, hf]
      · obtain ⟨path, op', item, hp, hm, hf⟩ :=
          ihl (.first op :: frames) hl hroom (Nat.not_le.1 hleft)
        refine ⟨.left :: path, op', item, ?_, hl.mem_zip_prefixedAt_left hm, ?_⟩
        · rw [hdepth]
          exact Expression.firstBelow?_node_of_left hp
        · rw [Automaton.feed_cons hstep, Automaton.feed_append_error hf]
    · have hfull := Nat.not_lt.1 hroom
      refine ⟨[], op, ⟨.operator op, span⟩, ?_, List.mem_cons_self .., ?_⟩
      · rw [Nat.sub_eq_zero_of_le hfull, Expression.firstBelow?_zero]
      · exact Automaton.feed_cons_error (step_operator_tooDeep hfull op span)

/-- A written tree that is not higher than the limit has its value. -/
theorem evaluate_prefixed {t : Expression Number} {items : List Lexeme}
    (hs : Spells items t.prefixed) (hd : t.height ≤ limit) :
    evaluate items limit = .ok t.value := by
  have hfits : ([] : List Frame).length + t.height ≤ limit := by simpa using hd
  have hfeed := feed_prefixed [] hs hfits
  rw [evaluate_eq_map_run, Automaton.run_of_feed hfeed]
  rfl

/-- A written tree that is too high is refused at its first operator with
`limit` others above it. -/
theorem evaluate_prefixed_tooDeep {t : Expression Number} {items : List Lexeme}
    (hs : Spells items t.prefixed) (hd : limit < t.height) : ∃ path op item,
      t.firstBelow? limit = some path ∧ ((path, Piece.operator op), item) ∈ t.prefixedAt.zip items ∧
      evaluate items limit = .error (.tooDeep item.span) := by
  have hhigh : limit < ([] : List Frame).length + t.height := by simpa using hd
  obtain ⟨path, op, item, hp, hm, hf⟩ := feed_prefixed_tooDeep [] hs (Nat.zero_le limit) hhigh
  refine ⟨path, op, item, hp, hm, ?_⟩
  rw [evaluate_eq_map_run, Automaton.run_of_feed_error hf]
  rfl

/-! ## Completions -/

theorem runFrom_resume_completes (limit : Nat) (frames : List Frame) (t : Expression Number) :
    ∃ items a, (automaton limit).runFrom (resume frames t) items = .ok a := by
  induction frames generalizing t with
  | nil => exact ⟨[], t, rfl⟩
  | cons frame frames ih =>
    cases frame with
    | first op =>
      obtain ⟨items, a, h⟩ := ih (.node op t (.leaf (.integer 0)))
      refine ⟨⟨.number (.integer 0), .single 0⟩ :: items, a, ?_⟩
      rw [resume, Automaton.runFrom_cons (step_number ..), resume, h]
    | second op lhs => exact ih (.node op lhs t)

/-- Every state of the prefix automaton can be completed. -/
theorem viable_automaton (limit : Nat) : (automaton limit).Viable where
  completes := by
    rintro (frames | t)
    · obtain ⟨items, a, h⟩ := runFrom_resume_completes limit frames (.leaf (.integer 0))
      refine ⟨⟨.number (.integer 0), .single 0⟩ :: items, a, ?_⟩
      rw [Automaton.runFrom_cons (step_number ..), h]
    · exact ⟨[], t, rfl⟩
  step_span := by
    rintro (frames | t) ⟨token, span⟩ fault h
    · cases token with
      | number v => cases h
      | leftParen => cases h; rfl
      | rightParen => cases h; rfl
      | operator op =>
        by_cases hlt : frames.length < limit
        · rw [step_operator hlt] at h
          cases h
        · rw [step_operator_tooDeep (Nat.not_lt.1 hlt)] at h
          cases h
          rfl
    · cases h
      rfl
  finish_span := by
    rintro ((_ | ⟨frame, frames⟩) | t) fault h <;> cases h <;> rfl

end Reckoner.Prefixed
