import Reckoner.Cursor.Basic

/-!
# Laws of readings

How readings are put together, and what a reading that succeeds has done to the
cursor.  `Reading.Advances k` says that at least `k` lexemes have been consumed
and that every level opened on the way has been closed again; it is proved of a
whole notation piece by piece, along the steps its reading is made of.
-/

namespace Reckoner.Reading

variable {α β : Type}

/-! ## Sequences -/

theorem bind_ok {x : Reading α} {f : α → Reading β} {c c' : Cursor} {a : α}
    (h : x c = .ok a c') : (x >>= f) c = f a c' := by
  show EStateM.bind x f c = _
  rw [EStateM.bind, h]

theorem bind_error {x : Reading α} {f : α → Reading β} {c c' : Cursor} {fault : Fault}
    (h : x c = .error fault c') : (x >>= f) c = .error fault c' := by
  show EStateM.bind x f c = _
  rw [EStateM.bind, h]

/-- A sequence succeeds when both of its parts do. -/
theorem bind_eq_ok {x : Reading α} {f : α → Reading β} {c c' : Cursor} {b : β}
    (h : (x >>= f) c = .ok b c') : ∃ a c₁, x c = .ok a c₁ ∧ f a c₁ = .ok b c' := by
  cases hx : x c with
  | ok a c₁ => exact ⟨a, c₁, rfl, by rwa [bind_ok hx] at h⟩
  | error fault c₁ =>
    rw [bind_error hx] at h
    cases h

/-- Sequences agree at a cursor when their first parts do, and their second
parts wherever the first one leads. -/
theorem bind_congr {x y : Reading α} {f g : α → Reading β} {c : Cursor} (hx : x c = y c)
    (hf : ∀ a c', x c = .ok a c' → f a c' = g a c') : (x >>= f) c = (y >>= g) c := by
  cases h : x c with
  | ok a c' => rw [bind_ok h, bind_ok (hx.symm.trans h), hf a c' h]
  | error fault c' => rw [bind_error h, bind_error (hx.symm.trans h)]

/-! ## Nested levels -/

theorem nested_ok {limit : Nat} {span : Span} {body : Reading α} {c c' : Cursor} {a : α}
    (hd : c.depth < limit) (h : body { c with depth := c.depth + 1 } = .ok a c') :
    nested limit span body c = .ok a { c' with depth := c'.depth - 1 } := by
  rw [nested_of_lt hd, h]

theorem nested_error {limit : Nat} {span : Span} {body : Reading α} {c c' : Cursor}
    {fault : Fault} (hd : c.depth < limit)
    (h : body { c with depth := c.depth + 1 } = .error fault c') :
    nested limit span body c = .error fault { c' with depth := c'.depth - 1 } := by
  rw [nested_of_lt hd, h]

/-- A nested reading that succeeds has room for its level, and its body
succeeds. -/
theorem nested_eq_ok {limit : Nat} {span : Span} {body : Reading α} {c c' : Cursor} {a : α}
    (h : nested limit span body c = .ok a c') :
    c.depth < limit ∧ ∃ c₁, body { c with depth := c.depth + 1 } = .ok a c₁ ∧
      c' = { c₁ with depth := c₁.depth - 1 } := by
  by_cases hd : c.depth < limit
  · refine ⟨hd, ?_⟩
    cases hb : body { c with depth := c.depth + 1 } with
    | ok b c₁ =>
      rw [nested_ok hd hb] at h
      cases h
      exact ⟨c₁, rfl, rfl⟩
    | error fault c₁ =>
      rw [nested_error hd hb] at h
      cases h
  · rw [nested_of_le (by omega)] at h
    cases h

theorem nested_congr {limit : Nat} {span : Span} {body body' : Reading α} {c : Cursor}
    (h : body { c with depth := c.depth + 1 } = body' { c with depth := c.depth + 1 }) :
    nested limit span body c = nested limit span body' c := by
  rw [nested, nested, h]

/-! ## Whole expressions -/

theorem evaluate_nil (r : Reading Number) : evaluate r [] = .error .empty := rfl

/-- What is left of the outcome of a whole reading when its cursor is forgotten. -/
def outcome : EStateM.Result Fault Cursor α → Except Fault α
  | .ok a _ => .ok a
  | .error fault _ => .error fault

theorem evaluate_eq_outcome {r : Reading Number} {items : List Lexeme} (hne : items ≠ []) :
    evaluate r items = outcome ((r >>= finish) (.ofList items)) := by
  cases items with
  | nil => exact absurd rfl hne
  | cons item items =>
    have hwhole : (do
        if ← atEnd then throw .empty
        finish (← r) : Reading Number) (.ofList (item :: items)) =
          (r >>= finish) (.ofList (item :: items)) := rfl
    rw [evaluate]
    dsimp only
    rw [hwhole]
    cases (r >>= finish) (.ofList (item :: items)) <;> rfl

theorem evaluate_of_ok {r : Reading Number} {items : List Lexeme} {v : Number} {c : Cursor}
    (hne : items ≠ []) (h : r (.ofList items) = .ok v c) :
    evaluate r items = outcome (finish v c) := by
  rw [evaluate_eq_outcome hne, bind_ok h]

theorem evaluate_of_error {r : Reading Number} {items : List Lexeme} {fault : Fault} {c : Cursor}
    (hne : items ≠ []) (h : r (.ofList items) = .error fault c) :
    evaluate r items = .error fault := by
  rw [evaluate_eq_outcome hne, bind_error h]
  rfl

theorem evaluate_congr {r r' : Reading Number} {items : List Lexeme}
    (h : r (.ofList items) = r' (.ofList items)) : evaluate r items = evaluate r' items := by
  by_cases hne : items = []
  · subst hne
    rfl
  · rw [evaluate_eq_outcome hne, evaluate_eq_outcome hne, bind_congr h fun _ _ _ => rfl]

/-! ## Progress -/

/-- Wherever the reading succeeds, it has consumed at least `k` lexemes, and as
many levels are open as before. -/
def Advances (k : Nat) (r : Reading α) : Prop :=
  ∀ c a c', r c = .ok a c' → c'.items.length + k ≤ c.items.length ∧ c'.depth = c.depth

theorem Advances.mono {k l : Nat} {r : Reading α} (h : Advances l r) (hk : k ≤ l) :
    Advances k r := by
  intro c a c' hr
  obtain ⟨hl, hd⟩ := h c a c' hr
  exact ⟨by omega, hd⟩

theorem advances_pure (a : α) : Advances 0 (pure a : Reading α) := by
  intro c b c' h
  cases h
  exact ⟨Nat.le_refl _, rfl⟩

theorem advances_throw (k : Nat) (fault : Fault) : Advances k (throw fault : Reading α) := by
  intro c a c' h
  cases h

theorem Advances.bind {k l : Nat} {x : Reading α} {f : α → Reading β} (hx : Advances k x)
    (hf : ∀ a, Advances l (f a)) : Advances (k + l) (x >>= f) := by
  intro c b c' h
  obtain ⟨a, c₁, h₁, h₂⟩ := bind_eq_ok h
  obtain ⟨hk, hd⟩ := hx c a c₁ h₁
  obtain ⟨hl, hd'⟩ := hf a c₁ b c' h₂
  exact ⟨by omega, hd'.trans hd⟩

theorem advances_advance : Advances 0 advance := by
  rintro ⟨items, n, g, d⟩ a c' h
  cases items with
  | nil => cases h; exact ⟨Nat.le_refl _, rfl⟩
  | cons item items => cases h; exact ⟨Nat.le_succ _, rfl⟩

theorem advances_nextItem : Advances 1 nextItem := by
  rintro ⟨items, n, g, d⟩ a c' h
  cases items with
  | nil => cases h
  | cons item items => cases h; exact ⟨Nat.le_refl _, rfl⟩

theorem advances_openGroup : Advances 0 openGroup := by
  intro c a c' h
  cases h
  exact ⟨Nat.le_refl _, rfl⟩

theorem advances_closeGroup (span : Span) : Advances 0 (closeGroup span) := by
  rintro ⟨items, n, g, d⟩ a c' h
  cases g with
  | zero => cases h
  | succ g => cases h; exact ⟨Nat.le_refl _, rfl⟩

theorem Advances.nested {k : Nat} {body : Reading α} (h : Advances k body) (limit : Nat)
    (span : Span) : Advances k (nested limit span body) := by
  intro c a c' hc
  obtain ⟨-, c₁, hb, rfl⟩ := nested_eq_ok hc
  obtain ⟨hk, hd⟩ := h _ _ _ hb
  refine ⟨hk, ?_⟩
  show c₁.depth - 1 = c.depth
  rw [hd, Nat.add_sub_cancel]

/-! ## Agreement -/

/-- The readings do the same wherever at most `n` lexemes are ahead. -/
def AgreeUpTo (n : Nat) (x y : Reading α) : Prop :=
  ∀ c : Cursor, c.items.length ≤ n → x c = y c

theorem AgreeUpTo.mono {m n : Nat} {x y : Reading α} (h : AgreeUpTo n x y) (hm : m ≤ n) :
    AgreeUpTo m x y := fun c hc => h c (Nat.le_trans hc hm)

/-- A sequence stays within the bound, since readings do not go back. -/
theorem AgreeUpTo.bind {n : Nat} {x y : Reading α} {f g : α → Reading β} (hx : AgreeUpTo n x y)
    (hadv : Advances 0 x) (hf : ∀ a, AgreeUpTo n (f a) (g a)) :
    AgreeUpTo n (x >>= f) (y >>= g) := by
  intro c hc
  refine bind_congr (hx c hc) fun a c' h => hf a c' ?_
  have hle := (hadv c a c' h).1
  omega

end Reckoner.Reading
