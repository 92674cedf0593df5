import Reckoner.Proofs.Grouped.Acceptance

/-!
# The grammar of fully parenthesised expressions

    Expression := Number | '(' Expression Operator Expression ')'

The tree of a derivation is an arithmetic tree, and what it derives is the fully
parenthesised form of the tree (`derives_iff`).  The groups of a derivation are
the operators of its tree, so the number of groups open at a place, which is that
of the parentheses opened and not closed before it, is bounded by the height of
the tree (`opensAtMost_iff`).

The main statement says which lists of lexemes have a value and which, and that
such a list has no other one as a proper beginning or as a continuation
(`evaluate_grammar`).
-/

namespace Reckoner.Grouped

/-! ## Derivations -/

/-- The tokens are derived by the grammar, with the tree `t`. -/
inductive Derives : List Token → Expression Number → Prop where
  | number (v : Number) : Derives [.number v] (.leaf v)
  | group {left right : List Token} {lhs rhs : Expression Number} (op : Operator)
      (hl : Derives left lhs) (hr : Derives right rhs) :
      Derives (.leftParen :: (left ++ .operator op :: (right ++ [.rightParen])))
        (.node op lhs rhs)

theorem derives_tokens (t : Expression Number) : Derives (t.tokens .grouped) t := by
  induction t with
  | leaf v => exact .number v
  | node op lhs rhs ihl ihr =>
    rw [Expression.tokens_grouped_node]
    exact .group op ihl ihr

theorem derives_iff {tokens : List Token} {t : Expression Number} :
    Derives tokens t ↔ tokens = t.tokens .grouped := by
  constructor
  · intro h
    induction h with
    | number v => rfl
    | group op hl hr ihl ihr => rw [Expression.tokens_grouped_node, ihl, ihr]
  · rintro rfl
    exact derives_tokens t

/-! ## Open groups -/

/-- The number of groups that are open after the tokens. -/
def openGroups (tokens : List Token) : Int :=
  tokens.count .leftParen - tokens.count .rightParen

@[simp] theorem openGroups_nil : openGroups [] = 0 := rfl

@[simp] theorem openGroups_append (front back : List Token) :
    openGroups (front ++ back) = openGroups front + openGroups back := by
  simp only [openGroups, List.count_append]
  omega

@[simp] theorem openGroups_leftParen_cons (tokens : List Token) :
    openGroups (.leftParen :: tokens) = openGroups tokens + 1 := by
  simp [openGroups]
  omega

@[simp] theorem openGroups_rightParen_cons (tokens : List Token) :
    openGroups (.rightParen :: tokens) = openGroups tokens - 1 := by
  simp [openGroups]
  omega

@[simp] theorem openGroups_number_cons (v : Number) (tokens : List Token) :
    openGroups (.number v :: tokens) = openGroups tokens := by
  simp [openGroups]

@[simp] theorem openGroups_operator_cons (op : Operator) (tokens : List Token) :
    openGroups (.operator op :: tokens) = openGroups tokens := by
  simp [openGroups]

@[simp] theorem openGroups_tokens (t : Expression Number) :
    openGroups (t.tokens .grouped) = 0 := by
  induction t with
  | leaf v => rfl
  | node op lhs rhs ihl ihr => simp [Expression.tokens_grouped_node, ihl, ihr]

/-- At no place of the tokens more than `limit` groups are open. -/
def OpensAtMost (limit : Int) (tokens : List Token) : Prop :=
  ∀ front, front <+: tokens → openGroups front ≤ limit

theorem opensAtMost_nil {limit : Int} : OpensAtMost limit [] ↔ 0 ≤ limit := by
  simp [OpensAtMost]

theorem opensAtMost_append {limit : Int} {front back : List Token} :
    OpensAtMost limit (front ++ back) ↔
      OpensAtMost limit front ∧ OpensAtMost (limit - openGroups front) back := by
  constructor
  · intro h
    refine ⟨fun p hp => h p (hp.trans (List.prefix_append _ _)), fun p hp => ?_⟩
    have hle := h (front ++ p) ((List.prefix_append_right_inj front).2 hp)
    rw [openGroups_append] at hle
    omega
  · rintro ⟨hfront, hback⟩ p hp
    rcases List.prefix_or_prefix_of_prefix hp (List.prefix_append front back) with h | ⟨q, rfl⟩
    · exact hfront p h
    · have hle := hback q ((List.prefix_append_right_inj front).1 hp)
      rw [openGroups_append]
      omega

theorem opensAtMost_cons {limit : Int} {token : Token} {tokens : List Token} :
    OpensAtMost limit (token :: tokens) ↔
      0 ≤ limit ∧ OpensAtMost (limit - openGroups [token]) tokens := by
  have hcons : ∀ front, openGroups (token :: front) = openGroups [token] + openGroups front :=
    openGroups_append [token]
  constructor
  · intro h
    refine ⟨h [] (List.nil_prefix), fun p hp => ?_⟩
    have hle := h (token :: p) (List.cons_prefix_cons.2 ⟨rfl, hp⟩)
    rw [hcons] at hle
    omega
  · rintro ⟨hlimit, htokens⟩ p hp
    rcases List.prefix_cons_iff.1 hp with rfl | ⟨q, rfl, hq⟩
    · exact hlimit
    · have hle := htokens q hq
      rw [hcons]
      omega

/-- The operators above each other in a tree are the groups inside of each
other. -/
theorem opensAtMost_iff {limit : Int} {t : Expression Number} :
    OpensAtMost limit (t.tokens .grouped) ↔ t.height ≤ limit := by
  induction t generalizing limit with
  | leaf v =>
    change OpensAtMost limit [.number v] ↔ ((0 : Nat) : Int) ≤ limit
    rw [opensAtMost_cons, opensAtMost_nil, openGroups_number_cons, openGroups_nil]
    omega
  | node op lhs rhs ihl ihr =>
    simp only [Expression.tokens_grouped_node, opensAtMost_cons, opensAtMost_append, ihl, ihr,
      opensAtMost_nil, Expression.height, openGroups_leftParen_cons, openGroups_nil,
      openGroups_tokens, openGroups_operator_cons, openGroups_rightParen_cons]
    omega

/-! ## Beginnings and continuations -/

variable {limit : Nat} {items : List Lexeme}

/-- After a complete expression nothing can follow. -/
theorem step_of_finish_eq_ok {s : State} {t : Expression Number}
    (h : (automaton limit).finish s = .ok t) (item : Lexeme) :
    (automaton limit).step s item = .error (.unfinished item.token item.span) := by
  rcases s with (_ | ⟨frame, frames⟩) | ⟨frames, lhs⟩ | ⟨frames, t'⟩ | t'
  · cases h
  · cases h
  · cases h
  · cases h
  · rfl

theorem evaluate_append_cons {v : Number} (h : evaluate items limit = .ok v) (next : Lexeme)
    (more : List Lexeme) :
    evaluate (items ++ next :: more) limit = .error (.unfinished next.token next.span) := by
  rw [evaluate_eq_map_run] at h ⊢
  exact Automaton.map_run_append_cons_error h (fun _ _ hs => step_of_finish_eq_ok hs next) more

/-- Wherever an expression is cut, its beginning ends too early. -/
theorem evaluate_beginning {front back : List Lexeme} {v : Number}
    (h : evaluate (front ++ back) limit = .ok v) (hfront : front ≠ []) (hback : back ≠ []) :
    evaluate front limit = .error .unexpectedEnd := by
  obtain ⟨next, more, rfl⟩ := List.exists_cons_of_ne_nil hback
  rw [evaluate_eq_map_run] at h ⊢
  obtain ⟨t, hrun, -⟩ := Automaton.map_run_eq_ok_iff.1 h
  obtain ⟨s, hfeed, -⟩ := Automaton.run_eq_ok hrun
  obtain ⟨s₁, s₂, hbegin, hnext, -⟩ := Automaton.feed_append_cons_eq_ok hfeed
  refine Automaton.map_run_eq_error_iff.2 ((Automaton.run_of_feed hbegin).trans ?_)
  rcases s₁ with (_ | ⟨frame, frames⟩) | ⟨frames, lhs⟩ | ⟨frames, t⟩ | t
  · -- a step does not lead back to the start
    obtain ⟨s₀, item, hlast⟩ := Automaton.exists_step_of_feed hbegin hfront
    exact absurd rfl (finish_step_ne_empty hlast)
  · rfl
  · rfl
  · rfl
  · -- nothing can follow a complete expression
    cases hnext

/-- **The notation evaluates the grammar.**  A list of lexemes has the value `v`
exactly when the grammar derives it with a tree of this value and at most 256
groups are open at any place; the derivation is the only one; what follows such
a list is left over; and each proper beginning of it ends too early. -/
theorem evaluate_grammar (items : List Lexeme) :
    (∀ v, evaluate items = .ok v ↔ ∃ t, Derives (items.map Lexeme.token) t ∧
      OpensAtMost 256 (items.map Lexeme.token) ∧ t.value = v) ∧
    (∀ t t', Derives (items.map Lexeme.token) t → Derives (items.map Lexeme.token) t' → t = t') ∧
    (∀ v next more, evaluate items = .ok v →
      evaluate (items ++ next :: more) = .error (.unfinished next.token next.span)) ∧
    (∀ v front back, evaluate items = .ok v → items = front ++ back → front ≠ [] → back ≠ [] →
      evaluate front = .error .unexpectedEnd) := by
  refine ⟨fun v => ?_, fun t t' h h' => ?_, fun v next more h => evaluate_append_cons h next more,
    ?_⟩
  · rw [evaluate_eq_ok_iff]
    refine exists_congr fun t => ?_
    rw [derives_iff]
    refine and_congr_right fun hspells => and_congr_left fun _ => ?_
    have hlimit : OpensAtMost 256 (items.map Lexeme.token) ↔ (t.height : Int) ≤ 256 := by
      rw [show items.map Lexeme.token = t.tokens .grouped from hspells, opensAtMost_iff]
    rw [hlimit, Reading.defaultLimit]
    omega
  · exact eq_of_spells (derives_iff.1 h) (derives_iff.1 h')
  · rintro v front back h rfl hfront hback
    exact evaluate_beginning h hfront hback

theorem evaluate_grammar_left_operand :
    evaluate [⟨.leftParen, .single 0⟩, ⟨.number (.integer 1), .single 1⟩] =
      .error .unexpectedEnd :=
  (evaluate_grammar [⟨.leftParen, .single 0⟩, ⟨.number (.integer 1), .single 1⟩,
    ⟨.operator .add, .single 2⟩, ⟨.number (.integer 2), .single 3⟩,
    ⟨.rightParen, .single 4⟩]).2.2.2 _ _ _ rfl rfl (List.cons_ne_nil _ _) (List.cons_ne_nil _ _)

end Reckoner.Grouped
