import Mathlib.Data.Set.Card
import Reckoner.Proofs.Expression.Surplus
import Reckoner.Proofs.Prefixed.Acceptance

/-!
# Prefix expressions that are not complete

An operator of a prefix expression waits until two trees have come after it.
How many operators wait at a place can be told from the tokens before it, without
running anything: these are the operators at which no tree starts that ends by
then (`incomplete`).  They are the frames of the automaton
(`ncard_incomplete_frameTokens`), which gives the exact condition for an
expression to end too early (`endsEarly_of_unexpectedEnd`,
`unexpectedEnd_of_endsEarly`).

With the results on accepted lists this says which lists of lexemes have a value,
which value, and what becomes of the list when it is continued or cut
(`evaluate_prefix_forms`).
-/

namespace Reckoner.Prefixed

/-! ## Operators that wait -/

/-- The places of the operators whose operands are incomplete at the end of the
tokens: no tree that starts there has ended by then. -/
def incomplete (tokens : List Token) : Set Nat :=
  {i | (∃ op, tokens[i]? = some (.operator op)) ∧
    ∀ t : Expression Number, ¬t.tokens .prefixed <+: tokens.drop i}

/-- No beginning of the tokens has more numbers than operators. -/
def IsOpen (tokens : List Token) : Prop :=
  ∀ front, front <+: tokens → surplus front ≤ 0

theorem IsOpen.no_form_at_start {tokens : List Token} (h : IsOpen tokens)
    (t : Expression Number) : ¬t.tokens .prefixed <+: tokens := by
  intro ht
  have hsurplus := h _ ht
  rw [t.surplus_prefixed] at hsurplus
  omega

theorem isOpen_frame (frame : Frame) : IsOpen frame.tokens := by
  intro front hfront
  cases frame with
  | first op =>
    rcases List.prefix_cons_iff.1 hfront with rfl | ⟨rest, rfl, hrest⟩
    · simp
    · rw [List.prefix_nil.1 hrest]
      simp
  | second op lhs =>
    rcases List.prefix_cons_iff.1 hfront with rfl | ⟨rest, rfl, hrest⟩
    · simp
    · have hle := Expression.surplus_le_one_of_prefixed hrest
      rw [surplus_operator_cons]
      omega

theorem lt_length_of_mem_incomplete {tokens : List Token} {i : Nat}
    (h : i ∈ incomplete tokens) : i < tokens.length := by
  obtain ⟨⟨op, hop⟩, -⟩ := h
  exact (List.getElem?_eq_some_iff.1 hop).1

theorem finite_incomplete (tokens : List Token) : (incomplete tokens).Finite :=
  (Set.finite_lt_nat tokens.length).subset fun _ => lt_length_of_mem_incomplete

/-- An operator that waits keeps waiting as long as what follows is open. -/
theorem mem_incomplete_append {front back : List Token} {i : Nat} (hback : IsOpen back)
    (hi : i < front.length) : i ∈ incomplete (front ++ back) ↔ i ∈ incomplete front := by
  simp only [incomplete, Set.mem_ofPred_eq, List.getElem?_append_left hi,
    List.drop_append_of_le_length (Nat.le_of_lt hi)]
  refine and_congr_right fun _ => ⟨fun h t ht => h t (ht.trans (List.prefix_append _ _)), ?_⟩
  rintro h t ⟨rest, hrest⟩
  rcases List.append_eq_append_iff.1 hrest with ⟨more, hmore, -⟩ | ⟨more, hmore, hrest⟩
  · exact h t ⟨more, hmore.symm⟩
  · by_cases hne : more = []
    · rw [hne, List.append_nil] at hmore
      exact h t (hmore ▸ List.prefix_rfl)
    · -- the tree would end in `back` with a surplus that neither part has
      have hfront := Expression.surplus_nonpos_of_prefixed hmore hne
      have hmore' := hback more ⟨rest, hrest.symm⟩
      have hwhole := t.surplus_prefixed
      rw [hmore, surplus_append] at hwhole
      omega

/-- A frame adds its operator to those that wait, and no other one. -/
theorem incomplete_append_frame (front : List Token) (frame : Frame) :
    incomplete (front ++ frame.tokens) = insert front.length (incomplete front) := by
  ext i
  rw [Set.mem_insert_iff]
  rcases Nat.lt_trichotomy i front.length with hlt | rfl | hgt
  · rw [mem_incomplete_append (isOpen_frame frame) hlt, or_iff_right hlt.ne]
  · refine iff_of_true ⟨?_, ?_⟩ (.inl rfl)
    · cases frame with
      | first op => exact ⟨op, by simp [Frame.tokens]⟩
      | second op lhs => exact ⟨op, by simp [Frame.tokens]⟩
    · rw [List.drop_left]
      exact (isOpen_frame frame).no_form_at_start
  · refine iff_of_false ?_ ?_
    · intro hi
      have hlength := lt_length_of_mem_incomplete hi
      obtain ⟨-, hnone⟩ := hi
      cases frame with
      | first op =>
        simp [Frame.tokens] at hlength
        omega
      | second op lhs =>
        -- a later place lies in the left operand, where a tree starts everywhere
        obtain ⟨j, rfl⟩ : ∃ j, i = front.length + (j + 1) := ⟨i - front.length - 1, by omega⟩
        have hj : j < (lhs.tokens .prefixed).length := by
          simp [Frame.tokens] at hlength
          omega
        obtain ⟨s, hs⟩ := lhs.exists_prefixed_at hj
        refine hnone s ?_
        rwa [List.drop_length_add_append, Frame.tokens, List.drop_succ_cons]
    · rintro (rfl | hi)
      · exact Nat.lt_irrefl _ hgt
      · exact Nat.lt_asymm hgt (lt_length_of_mem_incomplete hi)

/-- The operators that wait are the frames. -/
theorem ncard_incomplete_frameTokens (frames : List Frame) :
    (incomplete (frameTokens frames)).ncard = frames.length := by
  induction frames with
  | nil =>
    have hnone : incomplete (frameTokens []) = ∅ :=
      Set.eq_empty_of_forall_notMem fun i hi => Nat.not_lt_zero i (lt_length_of_mem_incomplete hi)
    rw [hnone, Set.ncard_empty, List.length_nil]
  | cons frame frames ih =>
    have hnew : (frameTokens frames).length ∉ incomplete (frameTokens frames) := fun h =>
      Nat.lt_irrefl _ (lt_length_of_mem_incomplete h)
    rw [frameTokens, incomplete_append_frame,
      Set.ncard_insert_of_notMem hnew (finite_incomplete _), ih, List.length_cons]

/-! ## Runs that end too early -/

variable {limit : Nat} {items : List Lexeme}

theorem ncard_incomplete_of_feed {frames : List Frame}
    (h : (automaton limit).feed (.operand []) items = .ok (.operand frames)) :
    (incomplete (items.map Lexeme.token)).ncard = frames.length := by
  have htokens : frameTokens frames = [] ++ items.map Lexeme.token :=
    (records_automaton limit).feed rfl h
  rw [List.nil_append] at htokens
  rw [← htokens, ncard_incomplete_frameTokens]

/-- After a complete expression nothing can follow. -/
theorem step_of_finish_eq_ok {s : State} {t : Expression Number}
    (h : (automaton limit).finish s = .ok t) (item : Lexeme) :
    (automaton limit).step s item = .error (.unfinished item.token item.span) := by
  rcases s with (_ | ⟨frame, frames⟩) | t'
  · cases h
  · cases h
  · rfl

theorem evaluate_append_cons {v : Number} (h : evaluate items limit = .ok v) (next : Lexeme)
    (more : List Lexeme) :
    evaluate (items ++ next :: more) limit = .error (.unfinished next.token next.span) := by
  rw [evaluate_eq_map_run] at h ⊢
  exact Automaton.map_run_append_cons_error h (fun _ _ hs => step_of_finish_eq_ok hs next) more

theorem evaluate_of_feed_complete {t : Expression Number}
    (h : (automaton limit).feed (.operand []) items = .ok (.complete t)) :
    evaluate items limit = .ok t.value := by
  rw [evaluate_eq_map_run, Automaton.run_of_feed h]
  rfl

/-- Nothing is wrong with the lexemes, but they are not an expression yet. -/
structure EndsEarly (limit : Nat) (items : List Lexeme) : Prop where
  /-- The lexemes are not an expression. -/
  refused : ∀ v, evaluate items limit ≠ .ok v
  /-- No proper beginning of them is one. -/
  beginning : ∀ front back v, items = front ++ back → back ≠ [] → evaluate front limit ≠ .ok v
  /-- There is no parenthesis. -/
  parenthesis : ∀ item ∈ items, item.token ≠ .leftParen ∧ item.token ≠ .rightParen
  /-- Before each operator fewer than `limit` operators wait for operands. -/
  room : ∀ before op span after, items = before ++ ⟨.operator op, span⟩ :: after →
    (incomplete (before.map Lexeme.token)).ncard < limit

theorem endsEarly_of_unexpectedEnd (h : evaluate items limit = .error .unexpectedEnd) :
    EndsEarly limit items := by
  have hrun := h
  rw [evaluate_eq_map_run, Automaton.map_run_eq_error_iff] at hrun
  obtain ⟨s, hfeed, -⟩ := (viable_automaton limit).finish_of_span_eq_none hrun rfl
  have hstep : ∀ before item after, items = before ++ item :: after → ∃ s₁ s₂,
      (automaton limit).feed (.operand []) before = .ok s₁ ∧
        Transition limit s₁ item.token s₂ := by
    rintro before item after rfl
    obtain ⟨s₁, s₂, hbefore, hitem, -⟩ := Automaton.feed_append_cons_eq_ok hfeed
    exact ⟨s₁, s₂, hbefore, transition_of_step hitem⟩
  refine ⟨fun v hv => ?_, ?_, fun item hitem => ?_, ?_⟩
  · rw [h] at hv
    cases hv
  · rintro front (_ | ⟨next, more⟩) v rfl hne hv
    · exact hne rfl
    · rw [evaluate_append_cons hv] at h
      cases h
  · obtain ⟨before, after, hitems⟩ := List.append_of_mem hitem
    obtain ⟨s₁, s₂, -, ht⟩ := hstep before item after hitems
    constructor
    · intro hparen
      rw [hparen] at ht
      cases ht
    · intro hparen
      rw [hparen] at ht
      cases ht
  · intro before op span after hitems
    obtain ⟨s₁, s₂, hbefore, ht⟩ := hstep before _ after hitems
    cases ht with
    | operator frames op hlt => rwa [ncard_incomplete_of_feed hbefore]

theorem unexpectedEnd_of_endsEarly (hne : items ≠ []) (h : EndsEarly limit items) :
    evaluate items limit = .error .unexpectedEnd := by
  rw [evaluate_eq_map_run, Automaton.map_run_eq_error_iff]
  cases hfeed : (automaton limit).feed (.operand []) items with
  | ok s =>
    refine (Automaton.run_of_feed hfeed).trans ?_
    rcases s with (_ | ⟨frame, frames⟩) | t
    · have htokens : frameTokens [] = [] ++ items.map Lexeme.token :=
        (records_automaton limit).feed rfl hfeed
      exact absurd (List.map_eq_nil_iff.1 htokens.symm) hne
    · rfl
    · exact absurd (evaluate_of_feed_complete hfeed) (h.refused _)
  | error fault =>
    obtain ⟨before, ⟨token, span⟩, after, s, rfl, hbefore, hstep⟩ :=
      Automaton.exists_of_feed_eq_error hfeed
    cases s with
    | complete t =>
      exact absurd (evaluate_of_feed_complete hbefore)
        (h.beginning before _ _ rfl (List.cons_ne_nil _ _))
    | operand frames =>
      have hparen := h.parenthesis ⟨token, span⟩ (by simp)
      cases token with
      | number v => cases hstep
      | leftParen => exact absurd rfl hparen.1
      | rightParen => exact absurd rfl hparen.2
      | operator op =>
        have hroom := h.room before op span after rfl
        rw [ncard_incomplete_of_feed hbefore] at hroom
        rw [step_operator hroom] at hstep
        cases hstep

/-! ## What prefix expressions are -/

/-- **The prefix notation reads prefix forms and nothing else.**  A list of
lexemes has the value `v` exactly when it is the prefix form of a tree of this
value with at most 256 operators above each other, and it is the form of one
tree only; whatever follows such a list is left over; and the lexemes end too
early exactly when nothing else is wrong with them. -/
theorem evaluate_prefix_forms (items : List Lexeme) :
    (∀ v, evaluate items = .ok v ↔
      ∃ t : Expression Number, Spells items t.prefixed ∧ t.height ≤ 256 ∧ t.value = v) ∧
    (∀ t t' : Expression Number, Spells items t.prefixed → Spells items t'.prefixed → t = t') ∧
    (∀ v next more, evaluate items = .ok v →
      evaluate (items ++ next :: more) = .error (.unfinished next.token next.span)) ∧
    (evaluate items = .error .unexpectedEnd ↔ items ≠ [] ∧ EndsEarly 256 items) := by
  refine ⟨fun v => evaluate_eq_ok_iff, fun t t' => eq_of_spells,
    fun v next more h => evaluate_append_cons h next more, fun h => ⟨?_, ?_⟩, fun h => ?_⟩
  · rintro rfl
    cases h
  · exact endsEarly_of_unexpectedEnd h
  · exact unexpectedEnd_of_endsEarly h.1 h.2

theorem evaluate_prefix_forms_left_over :
    evaluate [⟨.number (.integer 1), .single 0⟩, ⟨.number (.integer 2), .single 2⟩] =
      .error (.unfinished (.number (.integer 2)) (.single 2)) :=
  (evaluate_prefix_forms [⟨.number (.integer 1), .single 0⟩]).2.2.1 _ _ [] rfl

end Reckoner.Prefixed
