import Reckoner.Proofs.Infixed.Automaton

/-!
# What the infix automaton accepts

Fed the lexemes of a derivation, the automaton builds this very derivation if no
more than `limit` levels are open at any of them (`reads`), and stops at a level
too many otherwise (`refuses`).  With the tokens of a run this gives
`parses_automaton`: a run succeeds with exactly the derivations of its lexemes
that are not too deep.
-/

namespace Reckoner.Infixed

variable {limit : Nat} {items : List Lexeme}

/-! ## Lexemes of a phrase -/

theorem exists_cons_of_map_token {token : Token} {tokens : List Token}
    (h : items.map Lexeme.token = token :: tokens) :
    ∃ span rest, items = ⟨token, span⟩ :: rest ∧ rest.map Lexeme.token = tokens := by
  obtain ⟨⟨token, span⟩, rest, rfl, rfl, hr⟩ := List.map_eq_cons_iff.1 h
  exact ⟨span, rest, rfl, hr⟩

/-- The lexemes of two phrases with a token between them. -/
theorem exists_split_of_map_token {token : Token} {front back : List Token}
    (h : items.map Lexeme.token = front ++ token :: back) :
    ∃ left span right, items = left ++ ⟨token, span⟩ :: right ∧
      left.map Lexeme.token = front ∧ right.map Lexeme.token = back := by
  obtain ⟨left, others, rfl, hl, ho⟩ := List.map_eq_append_iff.1 h
  obtain ⟨span, right, rfl, hr⟩ := exists_cons_of_map_token ho
  exact ⟨left, span, right, rfl, hl, hr⟩

/-! ## Derivations with room below the limit -/

/-- The automaton reads a derivation: a single fills the chain that waits for
it, a product follows what the chain has before it, and a sum leaves products
that regroup to it. -/
def Reads (limit : Nat) : {k : Category} → Derivation k → Prop
  | .single, t => ∀ (items : List Lexeme) (p : Pending) (outer : List Pending),
      items.map Lexeme.token = t.tokens → p.signs + levels outer + t.depth ≤ limit →
        (automaton limit).feed (.operand p outer) items =
          .ok (.rest p.waiting (p.fill t) outer)
  | .product, t => ∀ (items : List Lexeme) (waiting : List (Derivation .product × Additive))
      (outer : List Pending), items.map Lexeme.token = t.tokens →
      levels outer + t.depth ≤ limit →
        (automaton limit).feed (.operand ⟨waiting, none, 0⟩ outer) items =
          .ok (.rest waiting t outer)
  | .sum, t => ∀ (items : List Lexeme) (waiting : List (Derivation .product × Additive))
      (outer : List Pending), items.map Lexeme.token = t.tokens →
      levels outer + t.depth ≤ limit → ∃ waiting' last,
        regroup waiting' (.ofProduct last) = regroup waiting t ∧
          (automaton limit).feed (.operand ⟨waiting, none, 0⟩ outer) items =
            .ok (.rest waiting' last outer)

theorem reads (limit : Nat) {k : Category} (t : Derivation k) : Reads limit t := by
  induction t with
  | number v =>
    intro items p outer hi _
    obtain ⟨span, _, rfl, hn⟩ := exists_cons_of_map_token hi
    obtain rfl := List.map_eq_nil_iff.1 hn
    exact Automaton.feed_cons (step_number ..)
  | minus t ih =>
    intro items p outer hi hd
    rw [Derivation.depth] at hd
    obtain ⟨span, operand, rfl, ho⟩ := exists_cons_of_map_token hi
    have hroom : p.signs + levels outer < limit := by omega
    have hfits : p.negate.signs + levels outer + t.depth ≤ limit := by
      simp only [Pending.negate]
      omega
    have hread := ih operand p.negate outer ho hfits
    rw [Automaton.feed_cons (step_minus span hroom), hread, Pending.fill_negate]
    rfl
  | group t ih =>
    intro items p outer hi hd
    rw [Derivation.depth] at hd
    obtain ⟨opened, inside, rfl, hin⟩ := exists_cons_of_map_token hi
    obtain ⟨body, closed, _, rfl, hb, hn⟩ := exists_split_of_map_token hin
    obtain rfl := List.map_eq_nil_iff.1 hn
    have hroom : p.signs + levels outer < limit := by omega
    have hfits : levels (p :: outer) + t.depth ≤ limit := by
      rw [levels_cons]
      omega
    obtain ⟨waiting, last, hlast, hf⟩ := ih body [] (p :: outer) hb hfits
    rw [Automaton.feed_cons (step_leftParen opened hroom), Pending.start, Automaton.feed_append hf,
      Automaton.feed_cons (step_rightParen ..), hlast]
    rfl
  | ofSingle t ih =>
    intro items waiting outer hi hd
    have hfits : 0 + levels outer + t.depth ≤ limit := by simpa [Derivation.depth] using hd
    exact ih items ⟨waiting, none, 0⟩ outer hi hfits
  | times lhs op rhs ihl ihr =>
    intro items waiting outer hi hd
    rw [Derivation.depth] at hd
    obtain ⟨left, span, right, rfl, hl, hr⟩ := exists_split_of_map_token hi
    have hfitsLeft : levels outer + lhs.depth ≤ limit := by omega
    have hfitsRight : 0 + levels outer + rhs.depth ≤ limit := by omega
    have hleft := ihl left waiting outer hl hfitsLeft
    have hright := ihr right ⟨waiting, some (lhs, op), 0⟩ outer hr hfitsRight
    rw [Automaton.feed_append hleft, Automaton.feed_cons (step_operator ..),
      after_multiplicative waiting lhs op.2, hright]
    rfl
  | ofProduct t ih =>
    intro items waiting outer hi hd
    exact ⟨waiting, t, rfl, ih items waiting outer hi hd⟩
  | plus lhs op rhs ihl ihr =>
    intro items waiting outer hi hd
    rw [Derivation.depth] at hd
    obtain ⟨left, span, right, rfl, hl, hr⟩ := exists_split_of_map_token hi
    have hfitsLeft : levels outer + lhs.depth ≤ limit := by omega
    have hfitsRight : levels outer + rhs.depth ≤ limit := by omega
    have hleft := ihl left waiting outer hl hfitsLeft
    obtain ⟨waiting', last, hlast, hf⟩ := ihr right ((lhs, op) :: waiting) outer hr hfitsRight
    refine ⟨waiting', last, hlast, ?_⟩
    rw [Automaton.feed_append hleft, Automaton.feed_cons (step_operator ..),
      after_additive waiting lhs op.2, hf]

/-! ## Derivations that are too deep -/

/-- The automaton stops somewhere on a derivation, because it opens a level too
many. -/
def Refuses (limit : Nat) : {k : Category} → Derivation k → Prop
  | .single, t => ∀ (items : List Lexeme) (p : Pending) (outer : List Pending),
      items.map Lexeme.token = t.tokens → p.signs + levels outer ≤ limit →
      limit < p.signs + levels outer + t.depth → ∃ span,
        (automaton limit).feed (.operand p outer) items = .error (.tooDeep span)
  | _, t => ∀ (items : List Lexeme) (waiting : List (Derivation .product × Additive))
      (outer : List Pending), items.map Lexeme.token = t.tokens → levels outer ≤ limit →
      limit < levels outer + t.depth → ∃ span,
        (automaton limit).feed (.operand ⟨waiting, none, 0⟩ outer) items = .error (.tooDeep span)

theorem refuses (limit : Nat) {k : Category} (t : Derivation k) : Refuses limit t := by
  induction t with
  | number v =>
    intro items p outer _ hle hlt
    rw [Derivation.depth] at hlt
    omega
  | minus t ih =>
    intro items p outer hi hle hlt
    rw [Derivation.depth] at hlt
    obtain ⟨span, operand, rfl, ho⟩ := exists_cons_of_map_token hi
    by_cases hroom : p.signs + levels outer < limit
    · have hopen : p.negate.signs + levels outer ≤ limit := by
        simp only [Pending.negate]
        omega
      have hdeep : limit < p.negate.signs + levels outer + t.depth := by
        simp only [Pending.negate]
        omega
      obtain ⟨place, hf⟩ := ih operand p.negate outer ho hopen hdeep
      exact ⟨place, by rw [Automaton.feed_cons (step_minus span hroom), hf]⟩
    · have hfull := Nat.not_lt.1 hroom
      exact ⟨span, Automaton.feed_cons_error (step_minus_tooDeep span hfull)⟩
  | group t ih =>
    intro items p outer hi hle hlt
    rw [Derivation.depth] at hlt
    obtain ⟨opened, inside, rfl, hin⟩ := exists_cons_of_map_token hi
    obtain ⟨body, closed, _, rfl, hb, -⟩ := exists_split_of_map_token hin
    by_cases hroom : p.signs + levels outer < limit
    · have hopen : levels (p :: outer) ≤ limit := by
        rw [levels_cons]
        omega
      have hdeep : limit < levels (p :: outer) + t.depth := by
        rw [levels_cons]
        omega
      obtain ⟨place, hf⟩ := ih body [] (p :: outer) hb hopen hdeep
      refine ⟨place, ?_⟩
      rw [Automaton.feed_cons (step_leftParen opened hroom), Pending.start,
        Automaton.feed_append_error hf]
    · have hfull := Nat.not_lt.1 hroom
      exact ⟨opened, Automaton.feed_cons_error (step_leftParen_tooDeep opened hfull)⟩
  | ofSingle t ih =>
    intro items waiting outer hi hle hlt
    have hopen : 0 + levels outer ≤ limit := by simpa using hle
    have hdeep : limit < 0 + levels outer + t.depth := by simpa [Derivation.depth] using hlt
    exact ih items ⟨waiting, none, 0⟩ outer hi hopen hdeep
  | ofProduct t ih => exact ih
  | times lhs op rhs ihl ihr =>
    intro items waiting outer hi hle hlt
    rw [Derivation.depth] at hlt
    obtain ⟨left, span, right, rfl, hl, hr⟩ := exists_split_of_map_token hi
    by_cases hleft : levels outer + lhs.depth ≤ limit
    · have hopen : 0 + levels outer ≤ limit := by simpa using hle
      have hdeep : limit < 0 + levels outer + rhs.depth := by omega
      have hread := reads limit lhs left waiting outer hl hleft
      obtain ⟨place, hf⟩ := ihr right ⟨waiting, some (lhs, op), 0⟩ outer hr hopen hdeep
      refine ⟨place, ?_⟩
      rw [Automaton.feed_append hread, Automaton.feed_cons (step_operator ..),
        after_multiplicative waiting lhs op.2, hf]
    · obtain ⟨place, hf⟩ := ihl left waiting outer hl hle (Nat.not_le.1 hleft)
      exact ⟨place, Automaton.feed_append_error hf _⟩
  | plus lhs op rhs ihl ihr =>
    intro items waiting outer hi hle hlt
    rw [Derivation.depth] at hlt
    obtain ⟨left, span, right, rfl, hl, hr⟩ := exists_split_of_map_token hi
    by_cases hleft : levels outer + lhs.depth ≤ limit
    · have hdeep : limit < levels outer + rhs.depth := by omega
      have hread := reads limit lhs left waiting outer hl hleft
      obtain ⟨place, hf⟩ := ihr right ((lhs, op) :: waiting) outer hr hle hdeep
      refine ⟨place, ?_⟩
      rw [Automaton.feed_append hread, Automaton.feed_cons (step_operator ..),
        after_additive waiting lhs op.2, hf]
    · obtain ⟨place, hf⟩ := ihl left waiting outer hl hle (Nat.not_le.1 hleft)
      exact ⟨place, Automaton.feed_append_error hf _⟩

/-! ## Whole runs -/

/-- **The automaton accepts the grammar.**  A run gives back exactly the
derivation of its lexemes, if there is one that is not too deep. -/
theorem parses_automaton : Automaton.Parses automaton
    (Derivation.tokens : Derivation .sum → List Token) Derivation.depth where
  reads limit _ _ h := ((records_automaton limit).run h).symm
  accepts limit items t hi hd := by
    have hfits : levels [] + t.depth ≤ limit := by simpa using hd
    obtain ⟨waiting, last, hlast, hf⟩ := reads limit t items [] [] hi hfits
    have hrun : (automaton limit).run items = (automaton limit).finish (.rest waiting last []) :=
      Automaton.run_of_feed hf
    rw [hrun]
    exact congrArg Except.ok hlast
  refuses limit items t hi hlt := by
    have hdeep : limit < levels [] + t.depth := by simpa using hlt
    obtain ⟨place, hf⟩ := refuses limit t items [] [] hi (Nat.zero_le _) hdeep
    exact ⟨_, Automaton.run_of_feed_error hf⟩

/-- The grammar is unambiguous. -/
theorem Derivation.eq_of_tokens_eq {t t' : Derivation .sum} (h : t.tokens = t'.tokens) :
    t = t' :=
  parses_automaton.eq_of_tokens_eq h

/-! ## Completions -/

/-- Closing parentheses end the chains that are open. -/
theorem runFrom_rest_completes (limit : Nat) (outer : List Pending)
    (waiting : List (Derivation .product × Additive)) (t : Derivation .product) :
    ∃ items a, (automaton limit).runFrom (.rest waiting t outer) items = .ok a := by
  induction outer generalizing waiting t with
  | nil => exact ⟨[], regroup waiting (.ofProduct t), rfl⟩
  | cons p outer ih =>
    obtain ⟨items, a, h⟩ := ih p.waiting (p.fill (.group (regroup waiting (.ofProduct t))))
    refine ⟨⟨.rightParen, .single 0⟩ :: items, a, ?_⟩
    rw [Automaton.runFrom_cons (step_rightParen ..), h]

/-- Every state of the infix automaton can be completed. -/
theorem viable_automaton (limit : Nat) : (automaton limit).Viable where
  completes := by
    rintro (⟨p, outer⟩ | ⟨waiting, t, outer⟩)
    · obtain ⟨items, a, h⟩ :=
        runFrom_rest_completes limit outer p.waiting (p.fill (.number (.integer 0)))
      refine ⟨⟨.number (.integer 0), .single 0⟩ :: items, a, ?_⟩
      rw [Automaton.runFrom_cons (step_number ..), h]
    · exact runFrom_rest_completes limit outer waiting t
  step_span := by
    rintro (⟨p, outer⟩ | ⟨waiting, t, outer⟩) ⟨token, span⟩ fault h
    · cases token with
      | number v => cases h
      | rightParen => cases h; rfl
      | leftParen =>
        by_cases hlt : p.signs + levels outer < limit
        · rw [step_leftParen span hlt] at h
          cases h
        · rw [step_leftParen_tooDeep span (Nat.not_lt.1 hlt)] at h
          cases h
          rfl
      | operator op =>
        cases op with
        | add => cases h; rfl
        | mul => cases h; rfl
        | div => cases h; rfl
        | sub =>
          by_cases hlt : p.signs + levels outer < limit
          · rw [step_minus span hlt] at h
            cases h
          · rw [step_minus_tooDeep span (Nat.not_lt.1 hlt)] at h
            cases h
            rfl
    · cases token with
      | number v => cases h; rfl
      | leftParen => cases h; rfl
      | operator op => cases h
      | rightParen =>
        cases outer with
        | nil => cases h; rfl
        | cons p outer => cases h
  finish_span := by
    rintro (⟨⟨_ | _, _ | _, _ | _⟩, _ | _⟩ | ⟨waiting, t, _ | ⟨p, outer⟩⟩) fault h <;>
      cases h <;> rfl

/-! ## Empty expressions -/

theorem finish_rest_ne_empty (limit : Nat) (waiting : List (Derivation .product × Additive))
    (t : Derivation .product) (outer : List Pending) :
    (automaton limit).finish (.rest waiting t outer) ≠ .error .empty := by
  cases outer <;> nofun

theorem finish_step_ne_empty {s s' : State} {item : Lexeme}
    (h : (automaton limit).step s item = .ok s') :
    (automaton limit).finish s' ≠ .error .empty := by
  obtain ⟨token, span⟩ := item
  cases transition_of_step h with
  | number p outer v => exact finish_rest_ne_empty limit _ _ outer
  | minus p outer _ =>
    obtain ⟨_ | _, _ | _, signs⟩ := p <;> cases outer <;> nofun
  | leftParen p outer _ => nofun
  | operator waiting t outer op =>
    cases op <;> cases waiting <;> nofun
  | rightParen waiting t p outer => exact finish_rest_ne_empty limit _ _ outer

end Reckoner.Infixed
