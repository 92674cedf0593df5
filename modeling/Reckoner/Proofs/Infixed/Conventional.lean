import Reckoner.Proofs.Exactness
import Reckoner.Proofs.Grouped.Grammar

/-!
# The usual grouping

By the usual convention additive operators group to the left, as multiplicative
ones do:

    Sum     := Product | Sum Additive Product
    Product := Single | Product Multiplicative Single
    Single  := Number | '-' Single | '(' Sum ')'

The notation groups them to the right.  Both grammars derive the same phrases, each
of them in one way only, and `Derivation.toLeft` regroups a derivation of the one to
the derivation of the other.

Regrouping changes `a - (b + c)` to `(a - b) + c`, which is another value, but
`a + (b - c)` to `(a + b) - c`, which is the same.  So the groupings agree where in
each group the only subtraction is the last additive operation (`SubtractsLast`), and
an integer that the notation gives is then the exact value by the usual convention
(`evaluate_conventional`).
-/

namespace Reckoner.Infixed

open Grouped (openGroups openGroups_append)

/-! ## Derivations by the usual convention -/

/-- A derivation of a phrase in which additive operators group to the left. -/
inductive Conventional : Category → Type where
  | number (v : Number) : Conventional .single
  | minus (operand : Conventional .single) : Conventional .single
  | group (body : Conventional .sum) : Conventional .single
  | ofSingle (operand : Conventional .single) : Conventional .product
  | times (lhs : Conventional .product) (op : Multiplicative) (rhs : Conventional .single) :
      Conventional .product
  | ofProduct (operand : Conventional .product) : Conventional .sum
  | plus (lhs : Conventional .sum) (op : Additive) (rhs : Conventional .product) :
      Conventional .sum

namespace Conventional

/-- The phrase that is derived. -/
def tokens {k : Category} : Conventional k → List Token
  | number v => [.number v]
  | minus t => .operator .sub :: t.tokens
  | group t => .leftParen :: (t.tokens ++ [.rightParen])
  | ofSingle t => t.tokens
  | times lhs op rhs => lhs.tokens ++ .operator op.1 :: rhs.tokens
  | ofProduct t => t.tokens
  | plus lhs op rhs => lhs.tokens ++ .operator op.1 :: rhs.tokens

/-- The term of a phrase; parentheses only group. -/
def term {k : Category} : Conventional k → Term
  | number v => .number v
  | minus t => .minus t.term
  | group t => t.term
  | ofSingle t => t.term
  | times lhs op rhs => .binary op.1 lhs.term rhs.term
  | ofProduct t => t.term
  | plus lhs op rhs => .binary op.1 lhs.term rhs.term

/-- The sum with a product and an additive operator before it. -/
def prepend (lhs : Conventional .product) (op : Additive) :
    Conventional .sum → Conventional .sum
  | ofProduct t => plus (ofProduct lhs) op t
  | plus t op' rhs => plus (prepend lhs op t) op' rhs

theorem tokens_prepend (lhs : Conventional .product) (op : Additive) (t : Conventional .sum) :
    (prepend lhs op t).tokens = lhs.tokens ++ .operator op.1 :: t.tokens := by
  fun_induction prepend lhs op t with
  | case1 t => rfl
  | case2 t op' rhs ih =>
    rw [tokens, ih, tokens, List.append_assoc]
    rfl

end Conventional

/-! ## Regrouping -/

namespace Derivation

/-- The sum with an additive operator and a product behind it. -/
def append : Derivation .sum → Additive → Derivation .product → Derivation .sum
  | ofProduct t, op, rhs => plus t op (ofProduct rhs)
  | plus lhs op' t, op, rhs => plus lhs op' (append t op rhs)

theorem tokens_append (t : Derivation .sum) (op : Additive) (rhs : Derivation .product) :
    (append t op rhs).tokens = t.tokens ++ .operator op.1 :: rhs.tokens := by
  fun_induction append t op rhs with
  | case1 t op rhs => rfl
  | case2 lhs op' t op rhs ih =>
    rw [tokens, ih, tokens, List.append_assoc]
    rfl

/-- The same phrase with its additive operators grouped to the left. -/
def toLeft {k : Category} : Derivation k → Conventional k
  | number v => .number v
  | minus t => .minus t.toLeft
  | group t => .group t.toLeft
  | ofSingle t => .ofSingle t.toLeft
  | times lhs op rhs => .times lhs.toLeft op rhs.toLeft
  | ofProduct t => .ofProduct t.toLeft
  | plus lhs op rhs => .prepend lhs.toLeft op rhs.toLeft

theorem tokens_toLeft {k : Category} (t : Derivation k) : t.toLeft.tokens = t.tokens := by
  induction t with
  | number v => rfl
  | minus t ih => rw [toLeft, Conventional.tokens, ih, tokens]
  | group t ih => rw [toLeft, Conventional.tokens, ih, tokens]
  | ofSingle t ih => exact ih
  | times lhs op rhs ihl ihr => rw [toLeft, Conventional.tokens, ihl, ihr, tokens]
  | ofProduct t ih => exact ih
  | plus lhs op rhs ihl ihr => rw [toLeft, Conventional.tokens_prepend, ihl, ihr, tokens]

theorem toLeft_append (t : Derivation .sum) (op : Additive) (rhs : Derivation .product) :
    (append t op rhs).toLeft = .plus t.toLeft op rhs.toLeft := by
  fun_induction append t op rhs with
  | case1 t op rhs => rw [toLeft, toLeft, toLeft, Conventional.prepend]
  | case2 lhs op' t op rhs ih => rw [toLeft, ih, toLeft, Conventional.prepend]

end Derivation

namespace Conventional

/-- The same phrase with its additive operators grouped to the right. -/
def toRight {k : Category} : Conventional k → Derivation k
  | number v => .number v
  | minus t => .minus t.toRight
  | group t => .group t.toRight
  | ofSingle t => .ofSingle t.toRight
  | times lhs op rhs => .times lhs.toRight op rhs.toRight
  | ofProduct t => .ofProduct t.toRight
  | plus lhs op rhs => .append lhs.toRight op rhs.toRight

theorem tokens_toRight {k : Category} (t : Conventional k) : t.toRight.tokens = t.tokens := by
  induction t with
  | number v => rfl
  | minus t ih => rw [toRight, Derivation.tokens, ih, tokens]
  | group t ih => rw [toRight, Derivation.tokens, ih, tokens]
  | ofSingle t ih => exact ih
  | times lhs op rhs ihl ihr => rw [toRight, Derivation.tokens, ihl, ihr, tokens]
  | ofProduct t ih => exact ih
  | plus lhs op rhs ihl ihr => rw [toRight, Derivation.tokens_append, ihl, ihr, tokens]

/-- Nothing is lost when a phrase is regrouped. -/
theorem toLeft_toRight {k : Category} (t : Conventional k) : t.toRight.toLeft = t := by
  induction t with
  | number v => rfl
  | minus t ih => rw [toRight, Derivation.toLeft, ih]
  | group t ih => rw [toRight, Derivation.toLeft, ih]
  | ofSingle t ih => rw [toRight, Derivation.toLeft, ih]
  | times lhs op rhs ihl ihr => rw [toRight, Derivation.toLeft, ihl, ihr]
  | ofProduct t ih => rw [toRight, Derivation.toLeft, ih]
  | plus lhs op rhs ihl ihr => rw [toRight, Derivation.toLeft_append, ihl, ihr]

/-- Phrases have one derivation by the usual convention, as they have one by the
notation. -/
theorem eq_of_tokens_eq {t t' : Conventional .sum} (h : t.tokens = t'.tokens) : t = t' := by
  have hright : t.toRight = t'.toRight := by
    apply Derivation.eq_of_tokens_eq
    rw [tokens_toRight, tokens_toRight, h]
  rw [← t.toLeft_toRight, hright, t'.toLeft_toRight]

end Conventional

/-! ## Values of regrouped phrases -/

/-- An addition on the left of an additive operator may as well be done last. -/
theorem onIntegers?_add_left {op : Operator} (h : op.precedence = .additive) (a b c : Int) :
    op.onIntegers? (a + b) c = op.onIntegers? b c >>= Operator.add.onIntegers? a := by
  cases op with
  | add => exact congrArg some (Int.add_assoc a b c)
  | sub => exact congrArg some (Int.add_sub_assoc a b c)
  | mul | div => cases h

/-- What is added to a sum may be added to its first product. -/
theorem Conventional.integerValue?_prepend (lhs : Conventional .product)
    (t : Conventional .sum) : (prepend lhs ⟨.add, rfl⟩ t).term.integerValue? =
      (Term.binary .add lhs.term t.term).integerValue? := by
  fun_induction prepend lhs ⟨.add, rfl⟩ t with
  | case1 t => rfl
  | case2 t op' rhs ih =>
    rw [term, Term.integerValue?, ih, term, Term.integerValue?, Term.integerValue?,
      Term.integerValue?]
    cases lhs.term.integerValue? with
    | none => rfl
    | some a =>
      cases t.term.integerValue? with
      | none => rfl
      | some b =>
        cases rhs.term.integerValue? with
        | none => rfl
        | some c => exact onIntegers?_add_left op'.2 a b c

namespace Derivation

variable {k : Category}

/-- In each group, what follows a subtraction is a product. -/
def SubtractsLast {k : Category} : Derivation k → Prop
  | number _ => True
  | minus t => t.SubtractsLast
  | group t => t.SubtractsLast
  | ofSingle t => t.SubtractsLast
  | times lhs _ rhs => lhs.SubtractsLast ∧ rhs.SubtractsLast
  | ofProduct t => t.SubtractsLast
  | plus lhs op rhs =>
    (op.1 = .sub → ∃ t, rhs = ofProduct t) ∧ lhs.SubtractsLast ∧ rhs.SubtractsLast

/-- Such a phrase has the same exact value in both groupings. -/
theorem integerValue?_toLeft {t : Derivation k} (h : t.SubtractsLast) :
    t.toLeft.term.integerValue? = t.term.integerValue? := by
  induction t with
  | number v => rfl
  | minus t ih =>
    rw [toLeft, Conventional.term, Term.integerValue?, ih h, term, Term.integerValue?]
  | group t ih => exact ih h
  | ofSingle t ih => exact ih h
  | times lhs op rhs ihl ihr =>
    rw [toLeft, Conventional.term, Term.integerValue?, ihl h.1, ihr h.2, term, Term.integerValue?]
  | ofProduct t ih => exact ih h
  | plus lhs op rhs ihl ihr =>
    obtain ⟨hproduct, hlhs, hrhs⟩ := h
    have hbinary : (Term.binary op.1 lhs.toLeft.term rhs.toLeft.term).integerValue? =
        (plus lhs op rhs).term.integerValue? := by
      rw [Term.integerValue?, ihl hlhs, ihr hrhs, term, Term.integerValue?]
    rw [← hbinary, toLeft]
    obtain ⟨op, hop⟩ := op
    cases op with
    | add => exact Conventional.integerValue?_prepend _ _
    | sub =>
      obtain ⟨t, rfl⟩ := hproduct rfl
      rw [toLeft, Conventional.prepend]
      rfl
    | mul | div => cases hop

end Derivation

/-! ## Subtractions in lists of tokens -/

/-- Whether an operand ends with the tokens, so that an operator behind them joins
it to another one. -/
def endsOperand (tokens : List Token) : Bool :=
  match tokens.getLast? with
  | some (.number _) | some .rightParen => true
  | _ => false

/-- The operator joins operands at the place with the number `i`. -/
def JoinsAt (tokens : List Token) (op : Operator) (i : Nat) : Prop :=
  tokens[i]? = some (.operator op) ∧ endsOperand (tokens.take i) = true

/-- The groups that are open at the place `i` are those that are open at the place
`j`, and none of them is closed in between. -/
def SameGroup (tokens : List Token) (i j : Nat) : Prop :=
  openGroups (tokens.take i) = openGroups (tokens.take j) ∧
  ∀ k < j, i ≤ k → openGroups (tokens.take i) ≤ openGroups (tokens.take k)

/-- In no group an additive operator that joins operands follows a minus sign that
joins operands. -/
def SubtractsLast (tokens : List Token) : Prop :=
  ∀ j < tokens.length, ∀ i < j, JoinsAt tokens .sub i → SameGroup tokens i j →
    ¬JoinsAt tokens .add j ∧ ¬JoinsAt tokens .sub j

instance (tokens : List Token) (op : Operator) (i : Nat) : Decidable (JoinsAt tokens op i) :=
  inferInstanceAs (Decidable (_ ∧ _))

instance (tokens : List Token) (i j : Nat) : Decidable (SameGroup tokens i j) :=
  inferInstanceAs (Decidable (_ ∧ _))

instance (tokens : List Token) : Decidable (SubtractsLast tokens) :=
  inferInstanceAs (Decidable (∀ j < tokens.length, ∀ i < j, _ → _ → _))

theorem endsOperand_append (front : List Token) {tokens : List Token}
    (h : endsOperand tokens = true) : endsOperand (front ++ tokens) = true := by
  rw [endsOperand] at h ⊢
  rw [List.getLast?_append]
  cases hlast : tokens.getLast? with
  | none =>
    rw [hlast] at h
    cases h
  | some last =>
    rw [hlast] at h
    exact h

/-- The tokens close the groups that they open, and no others. -/
structure Balanced (tokens : List Token) : Prop where
  total : openGroups tokens = 0
  nonneg : ∀ front, front <+: tokens → 0 ≤ openGroups front

namespace Balanced

variable {a b : List Token}

theorem append (ha : Balanced a) (hb : Balanced b) : Balanced (a ++ b) where
  total := by rw [openGroups_append, ha.total, hb.total, Int.add_zero]
  nonneg := by
    intro front hfront
    rcases List.prefix_or_prefix_of_prefix hfront (List.prefix_append a b) with h | ⟨p, rfl⟩
    · exact ha.nonneg front h
    · rw [openGroups_append, ha.total, Int.zero_add]
      exact hb.nonneg p ((List.prefix_append_right_inj a).1 hfront)

theorem singleton {token : Token} (h : openGroups [token] = 0) : Balanced [token] where
  total := h
  nonneg := by
    intro front hfront
    rcases List.prefix_cons_iff.1 hfront with rfl | ⟨p, rfl, hp⟩
    · exact Int.le_refl 0
    · exact Int.le_of_eq (by rw [List.prefix_nil.1 hp, h])

theorem group (ha : Balanced a) : Balanced (.leftParen :: (a ++ [.rightParen])) where
  total := by simp [ha.total]
  nonneg := by
    intro front hfront
    rcases List.prefix_cons_iff.1 hfront with rfl | ⟨p, rfl, hp⟩
    · exact Int.le_refl 0
    · rw [Grouped.openGroups_leftParen_cons]
      rcases List.prefix_or_prefix_of_prefix hp (List.prefix_append a _) with h | ⟨q, rfl⟩
      · have hnonneg := ha.nonneg p h
        omega
      · have htotal := ha.total
        rw [openGroups_append]
        have hq := (List.prefix_append_right_inj a).1 hp
        rcases List.prefix_cons_iff.1 hq with rfl | ⟨r, rfl, hr⟩
        · rw [Grouped.openGroups_nil]
          omega
        · rw [List.prefix_nil.1 hr, Grouped.openGroups_rightParen_cons, Grouped.openGroups_nil]
          omega

end Balanced

namespace Derivation

variable {k : Category}

theorem balanced_tokens (t : Derivation k) : Balanced t.tokens := by
  induction t with
  | number v => exact .singleton rfl
  | minus t ih => exact (Balanced.singleton rfl).append ih
  | group t ih => exact ih.group
  | ofSingle t ih => exact ih
  | times lhs op rhs ihl ihr => exact ihl.append ((Balanced.singleton rfl).append ihr)
  | ofProduct t ih => exact ih
  | plus lhs op rhs ihl ihr => exact ihl.append ((Balanced.singleton rfl).append ihr)

/-- An operator behind a phrase joins it to something. -/
theorem endsOperand_tokens (t : Derivation k) : endsOperand t.tokens = true := by
  induction t with
  | number v => rfl
  | minus t ih => exact endsOperand_append [.operator .sub] ih
  | group t ih => exact endsOperand_append (.leftParen :: t.tokens) rfl
  | ofSingle t ih => exact ih
  | times lhs op rhs ihl ihr => exact endsOperand_append _ (endsOperand_append [.operator op.1] ihr)
  | ofProduct t ih => exact ih
  | plus lhs op rhs ihl ihr => exact endsOperand_append _ (endsOperand_append [.operator op.1] ihr)

end Derivation

variable {front mid back : List Token} {op : Operator}

theorem joinsAt_length (h : endsOperand front = true) :
    JoinsAt (front ++ .operator op :: back) op front.length :=
  ⟨by simp, by rwa [List.take_left]⟩

/-- Behind an operator, tokens that are balanced leave no group and enter none. -/
theorem sameGroup_length (h : Balanced mid) :
    SameGroup ((front ++ .operator op :: mid) ++ back) front.length
      (front ++ .operator op :: mid).length := by
  have htake : ((front ++ .operator op :: mid) ++ back).take front.length = front := by
    rw [List.append_assoc, List.take_left]
  refine ⟨?_, fun k hlt hle => ?_⟩
  · rw [htake, List.take_left]
    simp [h.total]
  · rw [htake, List.take_append_of_le_length (Nat.le_of_lt hlt)]
    obtain ⟨m, rfl⟩ := Nat.exists_eq_add_of_le hle
    rw [List.take_length_add_append, openGroups_append]
    cases m with
    | zero => simp
    | succ m =>
      have hnonneg := h.nonneg (mid.take m) (List.take_prefix m mid)
      rw [List.take_succ_cons, Grouped.openGroups_operator_cons]
      omega

/-- Behind a minus sign that joins operands, an additive operator does not follow a
phrase. -/
theorem SubtractsLast.precedence_ne {k : Category} {t : Derivation k}
    (h : SubtractsLast (front ++ .operator .sub :: (t.tokens ++ .operator op :: back)))
    (hfront : endsOperand front = true) : op.precedence ≠ .additive := by
  have hsplit : front ++ .operator .sub :: (t.tokens ++ .operator op :: back) =
      (front ++ .operator .sub :: t.tokens) ++ .operator op :: back := by simp
  rw [hsplit] at h
  have hbehind : endsOperand (front ++ .operator .sub :: t.tokens) = true :=
    endsOperand_append front (endsOperand_append [.operator .sub] t.endsOperand_tokens)
  have hminus : JoinsAt ((front ++ .operator .sub :: t.tokens) ++ .operator op :: back) .sub
      front.length := by
    rw [← hsplit]
    exact joinsAt_length hfront
  obtain ⟨hadd, hsub⟩ := h (front ++ .operator .sub :: t.tokens).length (by simp) front.length
    (by simp) hminus (sameGroup_length t.balanced_tokens)
  intro hop
  cases op with
  | add => exact hadd (joinsAt_length hbehind)
  | sub => exact hsub (joinsAt_length hbehind)
  | mul | div => cases hop

/-- What holds of the tokens holds of a derivation of a part of them. -/
theorem Derivation.subtractsLast_of_tokens {k : Category} (t : Derivation k)
    (front back : List Token) (h : Infixed.SubtractsLast (front ++ (t.tokens ++ back))) :
    t.SubtractsLast := by
  induction t generalizing front back with
  | number v => trivial
  | minus t ih =>
    refine ih (front ++ [.operator .sub]) back ?_
    simpa [tokens] using h
  | group t ih =>
    refine ih (front ++ [.leftParen]) (.rightParen :: back) ?_
    simpa [tokens] using h
  | ofSingle t ih => exact ih front back h
  | times lhs op rhs ihl ihr =>
    refine ⟨ihl front (.operator op.1 :: (rhs.tokens ++ back)) ?_,
      ihr (front ++ (lhs.tokens ++ [.operator op.1])) back ?_⟩
    · simpa [tokens] using h
    · simpa [tokens] using h
  | ofProduct t ih => exact ih front back h
  | plus lhs op rhs ihl ihr =>
    refine ⟨fun hsub => ?_, ihl front (.operator op.1 :: (rhs.tokens ++ back)) ?_,
      ihr (front ++ (lhs.tokens ++ [.operator op.1])) back ?_⟩
    · cases rhs with
      | ofProduct t => exact ⟨t, rfl⟩
      | plus next op' rest =>
        have hbehind : Infixed.SubtractsLast ((front ++ lhs.tokens) ++ .operator .sub ::
            (next.tokens ++ .operator op'.1 :: (rest.tokens ++ back))) := by
          simpa [tokens, hsub] using h
        have hfront := endsOperand_append front lhs.endsOperand_tokens
        exact absurd op'.2 (hbehind.precedence_ne hfront)
    · simpa [tokens] using h
    · simpa [tokens] using h

/-! ## Evaluation -/

/-- **Grouping to the right is harmless if nothing is added behind a subtraction.**
Where no additive operator follows a subtraction of its group, an integer that the
notation evaluates to is the exact value of the only derivation by the usual
convention. -/
theorem evaluate_conventional (items : List Lexeme) (v : Int64)
    (h : evaluate items = .ok (.integer v)) (hlast : SubtractsLast (items.map Lexeme.token)) :
    ∃ t : Conventional .sum, (∀ t', t'.tokens = items.map Lexeme.token ↔ t' = t) ∧
      t.term.integerValue? = some v.toInt := by
  obtain ⟨d, htokens, -, hvalue⟩ := evaluate_eq_ok_iff.1 h
  have hleft : d.toLeft.tokens = items.map Lexeme.token := d.tokens_toLeft.trans htokens
  have hd : d.SubtractsLast := by
    refine d.subtractsLast_of_tokens [] [] ?_
    rwa [List.nil_append, List.append_nil, htokens]
  rw [← d.value_term, Term.value_eq_integer_iff] at hvalue
  refine ⟨d.toLeft, fun t' => ⟨fun ht' => ?_, ?_⟩, ?_⟩
  · exact Conventional.eq_of_tokens_eq (ht'.trans hleft.symm)
  · rintro rfl
    exact hleft
  · rw [Derivation.integerValue?_toLeft hd, hvalue.2]

/-- A subtraction in a group and one behind it. -/
theorem evaluate_conventional_inner_subtraction :
    let items : List Lexeme := [⟨.number (.integer 7), .single 0⟩, ⟨.operator .add, .single 2⟩,
      ⟨.leftParen, .single 4⟩, ⟨.number (.integer 4), .single 5⟩, ⟨.operator .sub, .single 7⟩,
      ⟨.number (.integer 1), .single 9⟩, ⟨.rightParen, .single 10⟩, ⟨.operator .sub, .single 12⟩,
      ⟨.number (.integer 2), .single 14⟩]
    evaluate items = .ok (.integer 8) ∧ SubtractsLast (items.map Lexeme.token) ∧
      ∃ t : Conventional .sum, (∀ t', t'.tokens = items.map Lexeme.token ↔ t' = t) ∧
        t.term.integerValue? = some 8 := by
  intro items
  have hvalue : evaluate items = .ok (.integer 8) := by
    rw [evaluate_eq_map_run]
    rfl
  have hlast : SubtractsLast (items.map Lexeme.token) := by decide +kernel
  exact ⟨hvalue, hlast, evaluate_conventional items 8 hvalue hlast⟩

/-- Two subtractions in the same group, of which the notation applies the second one
first. -/
example :
    let items : List Lexeme := [⟨.number (.integer 1), .single 0⟩, ⟨.operator .sub, .single 1⟩,
      ⟨.number (.integer 2), .single 2⟩, ⟨.operator .sub, .single 3⟩,
      ⟨.number (.integer 3), .single 4⟩]
    evaluate items = .ok (.integer 2) ∧ ¬SubtractsLast (items.map Lexeme.token) :=
  ⟨rfl, by decide +kernel⟩

end Reckoner.Infixed
