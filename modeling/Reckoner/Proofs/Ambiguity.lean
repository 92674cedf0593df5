import Mathlib.Data.List.Chain
import Reckoner.Notation.Basic
import Reckoner.Proofs.Infixed.Extension
import Reckoner.Proofs.Postfixed.Acceptance
import Reckoner.Proofs.Prefixed.Acceptance
import Reckoner.Proofs.Token.Segmentation

/-!
# Texts that are expressions of several notations

A text may be an expression of more than one notation, but it never has two
values (`evaluate_unambiguous`).  What tells the notations apart is where two
numbers stand next to each other: at the end of a prefix form, at the beginning
of a postfix form, and nowhere in an infix one.  So the prefix and the postfix
notation share only single numbers with the others, and of the remaining two the
fully parenthesised notation is a part of the infix notation.

On texts without tokens the notations agree as well: all of them say that the
expression is empty, and none says so of any other text.
-/

namespace Reckoner

/-! ## Numbers next to each other -/

/-- No two numbers stand next to each other. -/
def Apart (tokens : List Token) : Prop :=
  tokens.IsChain fun s t => ∀ v w, ¬(s = .number v ∧ t = .number w)

theorem not_apart_append (front : List Token) (v w : Number) (back : List Token) :
    ¬Apart (front ++ .number v :: .number w :: back) := by
  intro h
  exact (List.isChain_append_cons_cons.1 h).2.1 v w ⟨rfl, rfl⟩

/-- Tokens other than numbers keep numbers apart. -/
theorem apart_append_cons {token : Token} (h : ∀ v, token ≠ .number v)
    (front back : List Token) : Apart (front ++ token :: back) ↔ Apart front ∧ Apart back := by
  have hright : ∀ s ∈ front.getLast?, ∀ t ∈ (token :: back).head?, ∀ v w,
      ¬(s = .number v ∧ t = .number w) := by
    rintro s - t ⟨⟩ v w ⟨-, hw⟩
    exact h w hw
  have hleft : ∀ t ∈ back.head?, ∀ v w, ¬(token = .number v ∧ t = .number w) :=
    fun t _ v w hvw => h v hvw.1
  rw [Apart, List.isChain_append, List.isChain_cons, and_iff_left hright, and_iff_right hleft]
  rfl

/-- No phrase of the infix grammar has two numbers next to each other. -/
theorem Infixed.Derivation.apart_tokens {k : Category} (t : Derivation k) : Apart t.tokens := by
  induction t with
  | number v => exact .singleton _
  | minus t ih => exact (apart_append_cons (by nofun) [] _).2 ⟨.nil, ih⟩
  | group t ih =>
    have hclosed : Apart (t.tokens ++ [.rightParen]) :=
      (apart_append_cons (by nofun) t.tokens []).2 ⟨ih, .nil⟩
    exact (apart_append_cons (by nofun) [] _).2 ⟨.nil, hclosed⟩
  | ofSingle t ih => exact ih
  | times lhs op rhs ihl ihr => exact (apart_append_cons (by nofun) _ _).2 ⟨ihl, ihr⟩
  | ofProduct t ih => exact ih
  | plus lhs op rhs ihl ihr => exact (apart_append_cons (by nofun) _ _).2 ⟨ihl, ihr⟩

namespace Expression

/-- A prefix form ends with a number. -/
theorem exists_tokens_prefixed (t : Expression Number) :
    ∃ front v, t.tokens .prefixed = front ++ [.number v] := by
  induction t with
  | leaf v => exact ⟨[], v, rfl⟩
  | node op lhs rhs _ ihr =>
    obtain ⟨front, v, h⟩ := ihr
    exact ⟨.operator op :: (lhs.tokens .prefixed ++ front), v, by simp [tokens_prefixed_node, h]⟩

/-- A prefix form with an operator ends with two numbers. -/
theorem exists_tokens_prefixed_node (op : Operator) (lhs rhs : Expression Number) :
    ∃ front v w, (node op lhs rhs).tokens .prefixed = front ++ [.number v, .number w] := by
  induction rhs generalizing op lhs with
  | leaf w =>
    obtain ⟨front, v, h⟩ := lhs.exists_tokens_prefixed
    have hw : (leaf w).tokens .prefixed = [.number w] := rfl
    exact ⟨.operator op :: front, v, w, by simp [tokens_prefixed_node, h, hw]⟩
  | node op' lhs' rhs' _ ih =>
    obtain ⟨front, v, w, h⟩ := ih op' lhs'
    refine ⟨.operator op :: (lhs.tokens .prefixed ++ front), v, w, ?_⟩
    rw [tokens_prefixed_node, h]
    simp

theorem not_apart_tokens_prefixed (op : Operator) (lhs rhs : Expression Number) :
    ¬Apart ((node op lhs rhs).tokens .prefixed) := by
  obtain ⟨front, v, w, h⟩ := exists_tokens_prefixed_node op lhs rhs
  rw [h]
  exact not_apart_append front v w []

/-- A postfix form starts with a number. -/
theorem exists_tokens_postfixed (t : Expression Number) :
    ∃ v back, t.tokens .postfixed = .number v :: back := by
  induction t with
  | leaf v => exact ⟨v, [], rfl⟩
  | node op lhs rhs ihl _ =>
    obtain ⟨v, back, h⟩ := ihl
    exact ⟨v, _, by rw [tokens_postfixed_node, h, List.cons_append]⟩

/-- A postfix form with an operator starts with two numbers. -/
theorem exists_tokens_postfixed_node (op : Operator) (lhs rhs : Expression Number) :
    ∃ v w back, (node op lhs rhs).tokens .postfixed = .number v :: .number w :: back := by
  induction lhs generalizing op rhs with
  | leaf v =>
    obtain ⟨w, back, h⟩ := rhs.exists_tokens_postfixed
    have hv : (leaf v).tokens .postfixed = [.number v] := rfl
    exact ⟨v, w, back ++ [.operator op], by simp [tokens_postfixed_node, h, hv]⟩
  | node op' lhs' rhs' ih _ =>
    obtain ⟨v, w, back, h⟩ := ih op' rhs'
    refine ⟨v, w, back ++ (rhs.tokens .postfixed ++ [.operator op]), ?_⟩
    rw [tokens_postfixed_node, h]
    simp

theorem not_apart_tokens_postfixed (op : Operator) (lhs rhs : Expression Number) :
    ¬Apart ((node op lhs rhs).tokens .postfixed) := by
  obtain ⟨v, w, back, h⟩ := exists_tokens_postfixed_node op lhs rhs
  rw [h]
  exact not_apart_append [] v w back

end Expression

/-! ## Lists of lexemes accepted twice -/

variable {items : List Lexeme} {v w : Number}

theorem Infixed.apart_of_evaluate {limit : Nat} (h : Infixed.evaluate items limit = .ok v) :
    Apart (items.map Lexeme.token) := by
  obtain ⟨t, htokens, -, -⟩ := evaluate_eq_ok_iff.1 h
  rw [← htokens]
  exact t.apart_tokens

theorem exists_eq_number_of_map_token {items : List Lexeme}
    (h : items.map Lexeme.token = [.number v]) : ∃ u span, items = [⟨.number u, span⟩] := by
  obtain ⟨⟨token, span⟩, rfl, rfl⟩ := List.map_eq_singleton_iff.1 h
  exact ⟨v, span, rfl⟩

theorem Prefixed.exists_eq_number_of_apart {limit : Nat}
    (h : Prefixed.evaluate items limit = .ok v) (hi : Apart (items.map Lexeme.token)) :
    ∃ u span, items = [⟨.number u, span⟩] := by
  obtain ⟨t, hs, -, -⟩ := evaluate_eq_ok_iff.1 h
  cases t with
  | leaf u => exact exists_eq_number_of_map_token hs
  | node op lhs rhs =>
    rw [show items.map Lexeme.token = _ from hs] at hi
    exact absurd hi (Expression.not_apart_tokens_prefixed op lhs rhs)

theorem Postfixed.exists_eq_number_of_apart (h : Postfixed.evaluate items = .ok v)
    (hi : Apart (items.map Lexeme.token)) : ∃ u span, items = [⟨.number u, span⟩] := by
  obtain ⟨t, hs, -⟩ := evaluate_eq_ok_iff.1 h
  cases t with
  | leaf u => exact exists_eq_number_of_map_token hs
  | node op lhs rhs =>
    rw [show items.map Lexeme.token = _ from hs] at hi
    exact absurd hi (Expression.not_apart_tokens_postfixed op lhs rhs)

/-- A prefix form starts with an operator and a postfix form with a number,
unless they are the same number. -/
theorem exists_eq_number_of_prefixed_postfixed {limit : Nat}
    (h : Prefixed.evaluate items limit = .ok v) (h' : Postfixed.evaluate items = .ok w) :
    ∃ u span, items = [⟨.number u, span⟩] := by
  obtain ⟨t, hs, -, -⟩ := Prefixed.evaluate_eq_ok_iff.1 h
  obtain ⟨t', hs', -⟩ := Postfixed.evaluate_eq_ok_iff.1 h'
  cases t with
  | leaf u => exact exists_eq_number_of_map_token hs
  | node op lhs rhs =>
    obtain ⟨u, back, hu⟩ := t'.exists_tokens_postfixed
    have htokens : (Expression.node op lhs rhs).tokens .prefixed = t'.tokens .postfixed :=
      hs.symm.trans hs'
    rw [Expression.tokens_prefixed_node, hu] at htokens
    cases htokens

namespace Notation

variable {m n : Notation}

/-- A single number has its value in every notation. -/
theorem evaluateItems_number (n : Notation) (u : Number) (span : Span) :
    n.evaluateItems [⟨.number u, span⟩] = .ok u := by
  cases n <;> rfl

/-- The notations with operators between their operands are parts of the infix
notation. -/
theorem infixed_of_evaluateItems (hn : ¬(n = prefixed ∨ n = postfixed))
    (h : n.evaluateItems items = .ok v) : Infixed.evaluate items = .ok v := by
  cases n with
  | prefixed => exact absurd (.inl rfl) hn
  | postfixed => exact absurd (.inr rfl) hn
  | grouped => exact Infixed.evaluate_of_grouped h
  | infixed => exact h

/-- What the prefix or the postfix notation shares with another notation is a
single number. -/
theorem exists_eq_number (hm : m = prefixed ∨ m = postfixed) (hne : n ≠ m)
    (h : m.evaluateItems items = .ok v) (h' : n.evaluateItems items = .ok w) :
    ∃ u span, items = [⟨.number u, span⟩] := by
  by_cases hn : n = prefixed ∨ n = postfixed
  · obtain rfl | rfl := hm
    · obtain rfl | rfl := hn
      · exact absurd rfl hne
      · exact exists_eq_number_of_prefixed_postfixed h h'
    · obtain rfl | rfl := hn
      · exact exists_eq_number_of_prefixed_postfixed h' h
      · exact absurd rfl hne
  · have hi := Infixed.apart_of_evaluate (infixed_of_evaluateItems hn h')
    obtain rfl | rfl := hm
    · exact Prefixed.exists_eq_number_of_apart h hi
    · exact Postfixed.exists_eq_number_of_apart h hi

/-- Lexemes have at most one value. -/
theorem evaluateItems_unique (h : m.evaluateItems items = .ok v)
    (h' : n.evaluateItems items = .ok w) : v = w := by
  have single : (∃ u span, items = [⟨.number u, span⟩]) → v = w := by
    rintro ⟨u, span, rfl⟩
    rw [evaluateItems_number] at h h'
    exact Except.ok.inj (h.symm.trans h')
  by_cases hne : n = m
  · subst hne
    exact Except.ok.inj (h.symm.trans h')
  · by_cases hm : m = prefixed ∨ m = postfixed
    · exact single (exists_eq_number hm hne h h')
    · by_cases hn : n = prefixed ∨ n = postfixed
      · exact single (exists_eq_number hn (Ne.symm hne) h' h)
      · have hi := infixed_of_evaluateItems hm h
        exact Except.ok.inj (hi.symm.trans (infixed_of_evaluateItems hn h'))

/-- In every notation, exactly the list without lexemes is empty. -/
theorem evaluateItems_eq_empty_iff (n : Notation) (items : List Lexeme) :
    n.evaluateItems items = .error .empty ↔ items = [] := by
  cases n with
  | prefixed => exact Prefixed.evaluate_eq_empty_iff
  | postfixed => exact Postfixed.evaluate_eq_empty_iff
  | grouped => exact Grouped.evaluate_eq_empty_iff
  | infixed => exact Infixed.evaluate_eq_empty_iff

/-- **The wrong notation never gives another value.**  A text has at most one
value, whatever notation it is read in; only a single number has one in the
prefix or the postfix notation and in another one; and all notations call the
same texts empty, those without digits and symbols. -/
theorem evaluate_unambiguous (text : String) :
    (∀ (m n : Notation) (v w : Number),
      m.evaluate text = .ok v → n.evaluate text = .ok w → v = w) ∧
    (∀ (m n : Notation) (v w : Number), m = prefixed ∨ m = postfixed → n ≠ m →
      m.evaluate text = .ok v → n.evaluate text = .ok w →
        ∃ u span, tokenize text = [⟨.number u, span⟩]) ∧
    ((∃ n : Notation, n.evaluate text = .error .empty) ↔
      ∀ n : Notation, n.evaluate text = .error .empty) ∧
    ((∀ n : Notation, n.evaluate text = .error .empty) ↔
      ∀ c ∈ text.toList, ¬IsSignificant c) := by
  have hempty (n : Notation) : n.evaluate text = .error .empty ↔ tokenize text = [] :=
    n.evaluateItems_eq_empty_iff (tokenize text)
  have hall : (∀ n : Notation, n.evaluate text = .error .empty) ↔ tokenize text = [] :=
    ⟨fun h => (hempty infixed).1 (h infixed), fun h n => (hempty n).2 h⟩
  refine ⟨fun m n v w h h' => evaluateItems_unique h h',
    fun m n v w hm hne h h' => exists_eq_number hm hne h h', ?_, ?_⟩
  · rw [hall]
    exact ⟨fun ⟨n, h⟩ => (hempty n).1 h, fun h => ⟨infixed, (hempty infixed).2 h⟩⟩
  · rw [hall, tokenize_eq_nil_iff]

theorem evaluate_unambiguous_number : ∃ u span, tokenize "7." = [⟨.number u, span⟩] :=
  (evaluate_unambiguous "7.").2.1 prefixed infixed _ _ (.inl rfl) nofun rfl rfl

end Notation

end Reckoner
