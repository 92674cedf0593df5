import Reckoner.Proofs.Cursor.Simulation
import Reckoner.Proofs.Expression.Written

/-!
# The fully parenthesised notation as an automaton

The frames of the automaton are the groups that are open, the innermost first; a
group is on its `left` side until its operator has been read and on its `right`
side from then on.  As for the prefix notation, reading and running come to the
same (`evaluate_eq_map_run`), the automaton reads a written tree back
(`feed_grouped`), and a tree too high for the limit stops it at the parenthesis
of the first operator with `limit` others above it (`feed_grouped_tooDeep`).
So a written tree has its value or is refused there (`evaluate_grouped`,
`evaluate_grouped_tooDeep`).
-/

namespace Reckoner.Grouped

open Reading

/-- A group that is open. -/
inductive Frame where
  /-- Its left operand is being read. -/
  | left
  /-- Its right operand is being read. -/
  | right (lhs : Expression Number) (op : Operator)

/-- What has been read of an expression. -/
inductive State where
  /-- An operand comes next. -/
  | operand (frames : List Frame)
  /-- The operator of a group comes next. -/
  | operator (frames : List Frame) (lhs : Expression Number)
  /-- The end of a group comes next. -/
  | close (frames : List Frame) (t : Expression Number)
  /-- The expression is complete. -/
  | complete (t : Expression Number)

/-- The state after an operand inside of `frames`. -/
def resume : List Frame → Expression Number → State
  | [], t => .complete t
  | .left :: frames, t => .operator frames t
  | .right lhs op :: frames, t => .close frames (.node op lhs t)

/-- What a lexeme does to a state. -/
def step (limit : Nat) : State → Lexeme → Except Fault State
  | .operand frames, item =>
    match item.token with
    | .number n => .ok (resume frames (.leaf n))
    | .leftParen =>
      if frames.length < limit then .ok (.operand (.left :: frames))
      else .error (.tooDeep item.span)
    | token => .error (.unexpectedToken token item.span)
  | .operator frames lhs, item =>
    match item.token with
    | .operator op => .ok (.operand (.right lhs op :: frames))
    | token => .error (.unexpectedToken token item.span)
  | .close frames t, item =>
    match item.token with
    | .rightParen => .ok (resume frames t)
    | token => .error (.unexpectedToken token item.span)
  | .complete _, item => .error (.unfinished item.token item.span)

/-- The tree that has been read, when it is complete. -/
def finish : State → Except Fault (Expression Number)
  | .operand [] => .error .empty
  | .complete t => .ok t
  | _ => .error .unexpectedEnd

/-- The automaton of the fully parenthesised notation. -/
def automaton (limit : Nat) : Automaton State (Expression Number) where
  start := .operand []
  step := step limit
  finish := finish

variable {limit : Nat} {frames : List Frame}

theorem step_number (limit : Nat) (frames : List Frame) (v : Number) (span : Span) :
    (automaton limit).step (.operand frames) ⟨.number v, span⟩ = .ok (resume frames (.leaf v)) :=
  rfl

theorem step_leftParen (h : frames.length < limit) (span : Span) :
    (automaton limit).step (.operand frames) ⟨.leftParen, span⟩ =
      .ok (.operand (.left :: frames)) :=
  if_pos h

theorem step_leftParen_tooDeep (h : limit ≤ frames.length) (span : Span) :
    (automaton limit).step (.operand frames) ⟨.leftParen, span⟩ = .error (.tooDeep span) :=
  if_neg (Nat.not_lt.2 h)

theorem step_operator (limit : Nat) (frames : List Frame) (lhs : Expression Number)
    (op : Operator) (span : Span) :
    (automaton limit).step (.operator frames lhs) ⟨.operator op, span⟩ =
      .ok (.operand (.right lhs op :: frames)) := rfl

theorem step_rightParen (limit : Nat) (frames : List Frame) (t : Expression Number)
    (span : Span) :
    (automaton limit).step (.close frames t) ⟨.rightParen, span⟩ = .ok (resume frames t) := rfl

/-- The steps that lexemes allow. -/
inductive Transition (limit : Nat) : State → Token → State → Prop where
  | number (frames : List Frame) (v : Number) :
    Transition limit (.operand frames) (.number v) (resume frames (.leaf v))
  | leftParen (frames : List Frame) (h : frames.length < limit) :
    Transition limit (.operand frames) .leftParen (.operand (.left :: frames))
  | operator (frames : List Frame) (lhs : Expression Number) (op : Operator) :
    Transition limit (.operator frames lhs) (.operator op) (.operand (.right lhs op :: frames))
  | rightParen (frames : List Frame) (t : Expression Number) :
    Transition limit (.close frames t) .rightParen (resume frames t)

theorem transition_of_step {s s' : State} {item : Lexeme}
    (h : (automaton limit).step s item = .ok s') : Transition limit s item.token s' := by
  obtain ⟨token, span⟩ := item
  cases s with
  | complete t => cases h
  | operand frames =>
    cases token with
    | operator op => cases h
    | rightParen => cases h
    | number v =>
      cases h
      exact .number frames v
    | leftParen =>
      by_cases hlt : frames.length < limit
      · rw [step_leftParen hlt] at h
        cases h
        exact .leftParen frames hlt
      · rw [step_leftParen_tooDeep (Nat.not_lt.1 hlt)] at h
        cases h
  | operator frames lhs =>
    cases token <;> cases h
    exact .operator frames lhs _
  | close frames t =>
    cases token <;> cases h
    exact .rightParen frames t

/-! ## The reading, one lexeme at a time -/

section

variable (limit bound : Nat) (items : List Lexeme) (n g d : Nat) (span : Span)

theorem expression_nil :
    expression limit bound ⟨[], n, g, d⟩ = .error .unexpectedEnd ⟨[], n, g, d⟩ := by
  cases bound <;> rfl

theorem expression_number (v : Number) :
    expression limit (bound + 1) ⟨⟨.number v, span⟩ :: items, n, g, d⟩ =
      .ok v ⟨items, n + 1, g, d⟩ := rfl

theorem expression_leftParen :
    expression limit (bound + 1) ⟨⟨.leftParen, span⟩ :: items, n, g, d⟩ =
      nested limit span (do
        let lhs ← expression limit bound
        let op ← expectOperator
        let rhs ← expression limit bound
        let _ ← expectToken .rightParen
        return op.apply lhs rhs) ⟨items, n + 1, g, d⟩ := rfl

end

/-! ## The reading and the automaton -/

/-- Reading the operator of a group. -/
theorem simulates_expectOperator (limit : Nat) (c : Cursor) (frames : List Frame)
    (lhs : Expression Number) :
    Simulates (automaton limit) (.operator frames lhs) c expectOperator fun op c' s =>
      s = .operand (.right lhs op :: frames) ∧ c'.items.length < c.items.length ∧
        c'.openGroups = c.openGroups ∧ c'.depth = c.depth := by
  obtain ⟨items, n, g, d⟩ := c
  cases items with
  | nil => exact .of_error rfl rfl
  | cons item items =>
    obtain ⟨token, span⟩ := item
    cases token with
    | operator op =>
      exact .of_ok rfl (Automaton.runFrom_cons (step_operator ..))
        ⟨rfl, Nat.lt_succ_self _, rfl, rfl⟩
    | number v => exact .of_error rfl (Automaton.runFrom_cons_error rfl)
    | leftParen => exact .of_error rfl (Automaton.runFrom_cons_error rfl)
    | rightParen => exact .of_error rfl (Automaton.runFrom_cons_error rfl)

/-- Reading the end of a group. -/
theorem simulates_expectToken (limit : Nat) (c : Cursor) (frames : List Frame)
    (t : Expression Number) :
    Simulates (automaton limit) (.close frames t) c (expectToken .rightParen) fun _ c' s =>
      s = resume frames t ∧ c'.items.length < c.items.length ∧
        c'.openGroups = c.openGroups ∧ c'.depth = c.depth := by
  obtain ⟨items, n, g, d⟩ := c
  cases items with
  | nil => exact .of_error rfl rfl
  | cons item items =>
    obtain ⟨token, span⟩ := item
    cases token with
    | rightParen =>
      exact .of_ok rfl (Automaton.runFrom_cons (step_rightParen ..))
        ⟨rfl, Nat.lt_succ_self _, rfl, rfl⟩
    | number v => exact .of_error rfl (Automaton.runFrom_cons_error rfl)
    | leftParen => exact .of_error rfl (Automaton.runFrom_cons_error rfl)
    | operator op => exact .of_error rfl (Automaton.runFrom_cons_error rfl)

/-- Reading an expression goes along with the automaton, inside of as many
frames as the cursor is deep. -/
theorem simulates_expression (limit : Nat) : ∀ (bound : Nat) (c : Cursor) (frames : List Frame),
    c.items.length ≤ bound → c.depth = frames.length → c.items ≠ [] ∨ frames ≠ [] →
      Simulates (automaton limit) (.operand frames) c (expression limit bound)
        (ReadsTree Expression.value (resume frames) c) := by
  -- where no lexeme is left, an operand is missing on both sides
  have ended : ∀ (bound n g d : Nat) (frames : List Frame), frames ≠ [] →
      Simulates (automaton limit) (.operand frames) ⟨[], n, g, d⟩ (expression limit bound)
        (ReadsTree Expression.value (resume frames) ⟨[], n, g, d⟩) := by
    intro bound n g d frames hne
    refine .of_error (expression_nil ..) ?_
    cases frames with
    | nil => exact absurd rfl hne
    | cons frame frames => rfl
  intro bound
  induction bound with
  | zero =>
    rintro ⟨items, n, g, d⟩ frames hb hd hne
    obtain rfl : items = [] := List.length_eq_zero_iff.1 (Nat.le_zero.1 hb)
    exact ended _ _ _ _ frames (by simpa using hne)
  | succ bound ih =>
    rintro ⟨items, n, g, d⟩ frames hb hd hne
    cases hd
    cases items with
    | nil => exact ended _ _ _ _ frames (by simpa using hne)
    | cons item items =>
      obtain ⟨token, span⟩ := item
      have hlen : items.length ≤ bound := by simpa using hb
      cases token with
      | number v =>
        exact .of_ok (expression_number ..) (Automaton.runFrom_cons (step_number ..))
          ⟨⟨.leaf v, rfl, rfl⟩, Nat.lt_succ_self _, rfl, rfl⟩
      | operator op => exact .of_error rfl (Automaton.runFrom_cons_error rfl)
      | rightParen => exact .of_error rfl (Automaton.runFrom_cons_error rfl)
      | leftParen =>
        by_cases hlt : frames.length < limit
        · refine .step (expression_leftParen ..)
            (Automaton.runFrom_cons (step_leftParen hlt span)) (.nested hlt ?_)
          refine (ih _ (.left :: frames) hlen rfl (.inr (List.cons_ne_nil _ _))).bind ?_
          rintro l c₁ _ ⟨⟨lhs, rfl, rfl⟩, hlen₁, hg₁, hd₁⟩
          refine (simulates_expectOperator limit c₁ frames lhs).bind ?_
          rintro op c₂ _ ⟨rfl, hlen₂, hg₂, hd₂⟩
          refine (ih c₂ (.right lhs op :: frames) (by simp at hlen₁; omega) (hd₂.trans hd₁)
            (.inr (List.cons_ne_nil _ _))).bind ?_
          rintro r c₃ _ ⟨⟨rhs, rfl, rfl⟩, hlen₃, hg₃, hd₃⟩
          refine (simulates_expectToken limit c₃ frames (.node op lhs rhs)).bind ?_
          rintro _ c₄ _ ⟨rfl, hlen₄, hg₄, hd₄⟩
          refine .pure ⟨⟨.node op lhs rhs, rfl, rfl⟩, ?_, ?_, ?_⟩
          · simp at hlen₁ ⊢
            omega
          · exact hg₄.trans (hg₃.trans (hg₂.trans hg₁))
          · simp [hd₄, hd₃, hd₂, hd₁]
        · have hge := Nat.not_lt.1 hlt
          exact .of_error ((expression_leftParen ..).trans (nested_of_le hge ..))
            (Automaton.runFrom_cons_error (step_leftParen_tooDeep hge span))

/-- The value of a fully parenthesised expression is that of the tree the
automaton reads. -/
theorem evaluate_eq_map_run (items : List Lexeme) (limit : Nat) :
    evaluate items limit = ((automaton limit).run items).map Expression.value := by
  have hread := simulates_expression limit items.length (.ofList items) [] (Nat.le_refl _) rfl
  refine Reading.evaluate_eq_map_run (ReadsTree Expression.value (resume []) (.ofList items)) rfl
    (fun v c s h => ?_) fun hne => hread (.inl hne)
  exact h.outcome_finish (fun _ => rfl) fun _ _ => rfl

/-! ## Runs on written trees -/

/-- The automaton reads back a tree that has room below the limit. -/
theorem feed_grouped {t : Expression Number} : ∀ (frames : List Frame) {items : List Lexeme},
    Spells items t.grouped → frames.length + t.height ≤ limit →
      (automaton limit).feed (.operand frames) items = .ok (resume frames t) := by
  induction t with
  | leaf v =>
    intro frames items hs hd
    obtain ⟨span, rfl⟩ := hs.of_grouped_leaf
    exact Automaton.feed_cons (step_number ..)
  | node op lhs rhs ihl ihr =>
    intro frames items hs hd
    rw [Expression.height] at hd
    obtain ⟨opened, left, middle, right, closed, rfl, hl, hr⟩ := hs.of_grouped_node
    have hroom : frames.length < limit := by omega
    have hfitsLeft : (Frame.left :: frames).length + lhs.height ≤ limit := by
      simp only [List.length_cons]
      omega
    have hfitsRight : (Frame.right lhs op :: frames).length + rhs.height ≤ limit := by
      simp only [List.length_cons]
      omega
    have hleft := ihl (.left :: frames) hl hfitsLeft
    have hright := ihr (.right lhs op :: frames) hr hfitsRight
    rw [Automaton.feed_cons (step_leftParen hroom opened), Automaton.feed_append hleft, resume,
      Automaton.feed_cons (step_operator ..), Automaton.feed_append hright, resume]
    exact Automaton.feed_cons (step_rightParen ..)

/-- On a tree that is too high the automaton stops at the parenthesis of the
first operator, in reading order, with as many operators above it as there is
room for. -/
theorem feed_grouped_tooDeep {t : Expression Number} : ∀ (frames : List Frame)
    {items : List Lexeme}, Spells items t.grouped → frames.length ≤ limit →
    limit < frames.length + t.height → ∃ path item,
      t.firstBelow? (limit - frames.length) = some path ∧
      ((path, Piece.leftParen), item) ∈ t.groupedAt.zip items ∧
      (automaton limit).feed (.operand frames) items = .error (.tooDeep item.span) := by
  induction t with
  | leaf v =>
    intro frames items _ hle hlt
    rw [Expression.height] at hlt
    omega
  | node op lhs rhs ihl ihr =>
    intro frames items hs hle hlt
    rw [Expression.height] at hlt
    obtain ⟨opened, left, middle, right, closed, rfl, hl, hr⟩ := hs.of_grouped_node
    by_cases hroom : frames.length < limit
    · have hstep := step_leftParen hroom opened
      have hdepth : limit - frames.length = limit - (frames.length + 1) + 1 := by omega
      by_cases hleft : (Frame.left :: frames).length + lhs.height ≤ limit
      · -- the left operand fits, so the right one does not
        have hright : limit < (Frame.right lhs op :: frames).length + rhs.height := by
          simp only [List.length_cons] at hleft ⊢
          omega
        have hlow : lhs.height ≤ limit - (frames.length + 1) := by
          simp only [List.length_cons] at hleft
          omega
        have hfeed := feed_grouped (.left :: frames) hl hleft
        obtain ⟨path, item, hp, hm, hf⟩ := ihr (.right lhs op :: frames) hr hroom hright
        refine ⟨.right :: path, item, ?_, hl.mem_zip_groupedAt_right hr hm, ?_⟩
        · rw [hdepth]
          exact Expression.firstBelow?_node_of_right hlow hp
        · rw [Automaton.feed_cons hstep, Automaton.feed_append hfeed, resume,
            Automaton.feed_cons (step_operator ..), Automaton.feed_append_error hf]
      · obtain ⟨path, item, hp, hm, hf⟩ := ihl (.left :: frames) hl hroom (Nat.not_le.1 hleft)
        refine ⟨.left :: path, item, ?_, hl.mem_zip_groupedAt_left hr hm, ?_⟩
        · rw [hdepth]
          exact Expression.firstBelow?_node_of_left hp
        · rw [Automaton.feed_cons hstep, Automaton.feed_append_error hf]
    · have hfull := Nat.not_lt.1 hroom
      refine ⟨[], ⟨.leftParen, opened⟩, ?_, List.mem_cons_self .., ?_⟩
      · rw [Nat.sub_eq_zero_of_le hfull, Expression.firstBelow?_zero]
      · exact Automaton.feed_cons_error (step_leftParen_tooDeep hfull opened)

/-- A written tree that is not higher than the limit has its value. -/
theorem evaluate_grouped {t : Expression Number} {items : List Lexeme}
    (hs : Spells items t.grouped) (hd : t.height ≤ limit) :
    evaluate items limit = .ok t.value := by
  have hfits : ([] : List Frame).length + t.height ≤ limit := by simpa using hd
  have hfeed := feed_grouped [] hs hfits
  rw [evaluate_eq_map_run, Automaton.run_of_feed hfeed]
  rfl

/-- A written tree that is too high is refused at the parenthesis of its first
operator with `limit` others above it. -/
theorem evaluate_grouped_tooDeep {t : Expression Number} {items : List Lexeme}
    (hs : Spells items t.grouped) (hd : limit < t.height) : ∃ path item,
      t.firstBelow? limit = some path ∧ ((path, Piece.leftParen), item) ∈ t.groupedAt.zip items ∧
      evaluate items limit = .error (.tooDeep item.span) := by
  have hhigh : limit < ([] : List Frame).length + t.height := by simpa using hd
  obtain ⟨path, item, hp, hm, hf⟩ := feed_grouped_tooDeep [] hs (Nat.zero_le limit) hhigh
  refine ⟨path, item, hp, hm, ?_⟩
  rw [evaluate_eq_map_run, Automaton.run_of_feed_error hf]
  rfl

/-! ## Completions -/

theorem runFrom_resume_completes (limit : Nat) (frames : List Frame) (t : Expression Number) :
    ∃ items a, (automaton limit).runFrom (resume frames t) items = .ok a := by
  induction frames generalizing t with
  | nil => exact ⟨[], t, rfl⟩
  | cons frame frames ih =>
    cases frame with
    | left =>
      obtain ⟨items, a, h⟩ := ih (.node .add t (.leaf (.integer 0)))
      refine ⟨⟨.operator .add, .single 0⟩ :: ⟨.number (.integer 0), .single 0⟩ ::
        ⟨.rightParen, .single 0⟩ :: items, a, ?_⟩
      rw [resume, Automaton.runFrom_cons (step_operator ..),
        Automaton.runFrom_cons (step_number ..), resume,
        Automaton.runFrom_cons (step_rightParen ..), h]
    | right lhs op =>
      obtain ⟨items, a, h⟩ := ih (.node op lhs t)
      refine ⟨⟨.rightParen, .single 0⟩ :: items, a, ?_⟩
      rw [resume, Automaton.runFrom_cons (step_rightParen ..), h]

/-- Every state of the automaton can be completed. -/
theorem viable_automaton (limit : Nat) : (automaton limit).Viable where
  completes := by
    rintro (frames | ⟨frames, lhs⟩ | ⟨frames, t⟩ | t)
    · obtain ⟨items, a, h⟩ := runFrom_resume_completes limit frames (.leaf (.integer 0))
      refine ⟨⟨.number (.integer 0), .single 0⟩ :: items, a, ?_⟩
      rw [Automaton.runFrom_cons (step_number ..), h]
    · exact runFrom_resume_completes limit (.left :: frames) lhs
    · obtain ⟨items, a, h⟩ := runFrom_resume_completes limit frames t
      refine ⟨⟨.rightParen, .single 0⟩ :: items, a, ?_⟩
      rw [Automaton.runFrom_cons (step_rightParen ..), h]
    · exact ⟨[], t, rfl⟩
  step_span := by
    rintro (frames | ⟨frames, lhs⟩ | ⟨frames, t⟩ | t) ⟨token, span⟩ fault h
    · cases token with
      | number v => cases h
      | operator op => cases h; rfl
      | rightParen => cases h; rfl
      | leftParen =>
        by_cases hlt : frames.length < limit
        · rw [step_leftParen hlt] at h
          cases h
        · rw [step_leftParen_tooDeep (Nat.not_lt.1 hlt)] at h
          cases h
          rfl
    · cases token <;> cases h <;> rfl
    · cases token <;> cases h <;> rfl
    · cases h
      rfl
  finish_span := by
    rintro ((_ | ⟨frame, frames⟩) | ⟨frames, lhs⟩ | ⟨frames, t⟩ | t) fault h <;> cases h <;> rfl

end Reckoner.Grouped
