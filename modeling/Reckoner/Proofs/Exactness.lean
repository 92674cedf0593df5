import Reckoner.Proofs.Expression.Term

/-!
# Integer results are exact

A term has an exact value over the integers as long as it has no division and no
double in it.  Its value in numbers is that integer exactly when 64 bits hold the
exact values of the term and of all its parts (`Term.value_eq_integer_iff`); as
soon as one of them does not fit, the value of everything around it is a double,
so that what has overflowed never turns into an integer again.

Since each notation evaluates to the value of the term that its lexemes denote,
this holds of all evaluations (`Notation.evaluateItems_exact`).
-/

namespace Reckoner

/-! ## Integers of 64 bits -/

/-- 64 bits hold the integer. -/
def InRange (n : Int) : Prop := Int64.minValue.toInt ≤ n ∧ n ≤ Int64.maxValue.toInt

instance (n : Int) : Decidable (InRange n) := inferInstanceAs (Decidable (_ ∧ _))

theorem inRange_iff {n : Int} : InRange n ↔ ∃ w : Int64, n = w.toInt := by
  constructor
  · intro h
    exact ⟨.ofIntLE n h.1 h.2, (Int64.toInt_ofIntLE ..).symm⟩
  · rintro ⟨w, rfl⟩
    exact ⟨w.minValue_le_toInt, w.toInt_le⟩

namespace Number

theorem getD_ofInt?_eq_integer_iff {n : Int} {x : Float} {w : Int64} :
    (ofInt? n).getD (.double x) = .integer w ↔ n = w.toInt := by
  rw [← ofInt?_eq_some_iff]
  cases ofInt? n with
  | none => exact ⟨nofun, nofun⟩
  | some v => simp

/-- Two numbers combine to an integer when both are integers and 64 bits hold
the exact result. -/
theorem combine_eq_integer_iff {exact : Int → Int → Int} {rounded : Float → Float → Float}
    {a b : Number} {w : Int64} : combine exact rounded a b = .integer w ↔
      ∃ v u, a = .integer v ∧ b = .integer u ∧ exact v.toInt u.toInt = w.toInt := by
  constructor
  · intro h
    cases a with
    | double x => cases h
    | integer v =>
      cases b with
      | double y => cases h
      | integer u => exact ⟨v, u, rfl, rfl, getD_ofInt?_eq_integer_iff.1 h⟩
  · rintro ⟨v, u, rfl, rfl, h⟩
    exact getD_ofInt?_eq_integer_iff.2 h

theorem neg_eq_integer_iff {a : Number} {w : Int64} :
    -a = .integer w ↔ ∃ v, a = .integer v ∧ -v.toInt = w.toInt := by
  constructor
  · intro h
    cases a with
    | double x => cases h
    | integer v => exact ⟨v, rfl, getD_ofInt?_eq_integer_iff.1 h⟩
  · rintro ⟨v, rfl, h⟩
    exact getD_ofInt?_eq_integer_iff.2 h

end Number

/-- The exact value of an operator at two integers; a division has none. -/
def Operator.onIntegers? : Operator → Int → Int → Option Int
  | add, a, b => some (a + b)
  | sub, a, b => some (a - b)
  | mul, a, b => some (a * b)
  | div, _, _ => none

theorem Operator.apply_eq_integer_iff {op : Operator} {a b : Number} {w : Int64} :
    op.apply a b = .integer w ↔
      ∃ v u, a = .integer v ∧ b = .integer u ∧ op.onIntegers? v.toInt u.toInt = some w.toInt := by
  cases op with
  | div => exact ⟨nofun, nofun⟩
  | add | sub | mul =>
    simp only [onIntegers?, Option.some.injEq]
    exact Number.combine_eq_integer_iff

namespace Term

/-! ## Exact values -/

/-- The exact value of a term over the integers, if it has one. -/
def integerValue? : Term → Option Int
  | number (.integer v) => some v.toInt
  | number (.double _) => none
  | minus t => t.integerValue?.map (- ·)
  | binary op lhs rhs => do op.onIntegers? (← lhs.integerValue?) (← rhs.integerValue?)

/-- Whether there is a division in the term. -/
def divides : Term → Bool
  | number _ => false
  | minus t => t.divides
  | binary op lhs rhs => op = .div || lhs.divides || rhs.divides

/-- Whether there is a double in the term. -/
def hasDouble : Term → Bool
  | number (.integer _) => false
  | number (.double _) => true
  | minus t => t.hasDouble
  | binary _ lhs rhs => lhs.hasDouble || rhs.hasDouble

/-- The term and all its parts. -/
def subterms : Term → List Term
  | number v => [number v]
  | minus t => minus t :: t.subterms
  | binary op lhs rhs => binary op lhs rhs :: (lhs.subterms ++ rhs.subterms)

/-- 64 bits hold the exact values of the term and of all its parts. -/
def Fits (t : Term) : Prop := ∀ s ∈ t.subterms, ∃ n, s.integerValue? = some n ∧ InRange n

variable {t s : Term} {op : Operator} {lhs rhs : Term} {w : Int64}

theorem self_mem_subterms (t : Term) : t ∈ t.subterms := by
  cases t <;> exact List.mem_cons_self ..

/-- The parts of a part are parts. -/
theorem subterms_subset (h : s ∈ t.subterms) : s.subterms ⊆ t.subterms := by
  induction t with
  | number v =>
    rw [List.mem_singleton.1 h]
    exact fun _ => id
  | minus t ih =>
    obtain rfl | h := List.mem_cons.1 h
    · exact fun _ => id
    · exact fun _ hu => List.mem_cons_of_mem _ (ih h hu)
  | binary op lhs rhs ihl ihr =>
    obtain rfl | h := List.mem_cons.1 h
    · exact fun _ => id
    · obtain h | h := List.mem_append.1 h
      · exact fun _ hu => List.mem_cons_of_mem _ (List.mem_append_left _ (ihl h hu))
      · exact fun _ hu => List.mem_cons_of_mem _ (List.mem_append_right _ (ihr h hu))

theorem isSome_integerValue?_binary_iff : (binary op lhs rhs).integerValue?.isSome ↔
    op ≠ .div ∧ lhs.integerValue?.isSome ∧ rhs.integerValue?.isSome := by
  rw [integerValue?]
  cases lhs.integerValue? <;> cases rhs.integerValue? <;> cases op <;> simp [Operator.onIntegers?]

/-- Terms without divisions and doubles are those with an exact value. -/
theorem isSome_integerValue?_iff :
    t.integerValue?.isSome ↔ t.divides = false ∧ t.hasDouble = false := by
  induction t with
  | number v => cases v <;> simp [integerValue?, divides, hasDouble]
  | minus t ih => simpa [integerValue?, divides, hasDouble] using ih
  | binary op lhs rhs ihl ihr =>
    rw [isSome_integerValue?_binary_iff, ihl, ihr]
    simp only [divides, hasDouble, Bool.or_eq_false_iff, decide_eq_false_iff_not]
    constructor
    · rintro ⟨hop, ⟨hdl, hfl⟩, hdr, hfr⟩
      exact ⟨⟨⟨hop, hdl⟩, hdr⟩, hfl, hfr⟩
    · rintro ⟨⟨⟨hop, hdl⟩, hdr⟩, hfl, hfr⟩
      exact ⟨hop, ⟨hdl, hfl⟩, hdr, hfr⟩

theorem Fits.exists_integer (h : t.Fits) : ∃ w : Int64, t.integerValue? = some w.toInt := by
  obtain ⟨n, hn, hrange⟩ := h t t.self_mem_subterms
  obtain ⟨w, rfl⟩ := inRange_iff.1 hrange
  exact ⟨w, hn⟩

theorem Fits.of_mem_subterms (h : t.Fits) (hs : s ∈ t.subterms) : s.Fits :=
  fun u hu => h u (subterms_subset hs hu)

theorem fits_minus_iff (h : (minus t).integerValue? = some w.toInt) : (minus t).Fits ↔ t.Fits := by
  rw [Fits, subterms, List.forall_mem_cons]
  exact and_iff_right ⟨_, h, inRange_iff.2 ⟨w, rfl⟩⟩

theorem fits_binary_iff (h : (binary op lhs rhs).integerValue? = some w.toInt) :
    (binary op lhs rhs).Fits ↔ lhs.Fits ∧ rhs.Fits := by
  rw [Fits, subterms, List.forall_mem_cons, List.forall_mem_append]
  exact and_iff_right ⟨_, h, inRange_iff.2 ⟨w, rfl⟩⟩

/-- **Integer values are exact**, and there is one exactly when all parts of the
term fit into 64 bits. -/
theorem value_eq_integer_iff : t.value = .integer w ↔ t.Fits ∧ t.integerValue? = some w.toInt := by
  induction t generalizing w with
  | number v =>
    cases v with
    | double x => exact ⟨nofun, nofun⟩
    | integer v =>
      have hfits : (number (.integer v)).Fits := by
        intro s hs
        rw [List.mem_singleton.1 hs]
        exact ⟨_, rfl, inRange_iff.2 ⟨v, rfl⟩⟩
      rw [and_iff_right hfits, value, integerValue?, Number.integer.injEq, Option.some.injEq,
        Int64.toInt_inj]
  | minus t ih =>
    rw [value, Number.neg_eq_integer_iff]
    constructor
    · rintro ⟨v, hv, hw⟩
      obtain ⟨hfits, hexact⟩ := ih.1 hv
      have h : (minus t).integerValue? = some w.toInt := by
        rw [integerValue?, hexact, ← hw, Option.map_some]
      exact ⟨(fits_minus_iff h).2 hfits, h⟩
    · rintro ⟨hfits, h⟩
      have hoperand := (fits_minus_iff h).1 hfits
      obtain ⟨v, hv⟩ := hoperand.exists_integer
      rw [integerValue?, hv, Option.map_some, Option.some.injEq] at h
      exact ⟨v, ih.2 ⟨hoperand, hv⟩, h⟩
  | binary op lhs rhs ihl ihr =>
    rw [value, Operator.apply_eq_integer_iff]
    constructor
    · rintro ⟨v, u, hv, hu, hw⟩
      obtain ⟨hfitsLeft, hexactLeft⟩ := ihl.1 hv
      obtain ⟨hfitsRight, hexactRight⟩ := ihr.1 hu
      have h : (binary op lhs rhs).integerValue? = some w.toInt := by
        rw [integerValue?, hexactLeft, hexactRight, ← hw]
        rfl
      exact ⟨(fits_binary_iff h).2 ⟨hfitsLeft, hfitsRight⟩, h⟩
    · rintro ⟨hfits, h⟩
      obtain ⟨hfitsLeft, hfitsRight⟩ := (fits_binary_iff h).1 hfits
      obtain ⟨v, hv⟩ := hfitsLeft.exists_integer
      obtain ⟨u, hu⟩ := hfitsRight.exists_integer
      rw [integerValue?, hv, hu] at h
      exact ⟨v, u, ihl.2 ⟨hfitsLeft, hv⟩, ihr.2 ⟨hfitsRight, hu⟩, h⟩

/-- A term with an integer value has no parts with double values. -/
theorem exists_double_of_mem_subterms (hs : s ∈ t.subterms) (h : ∃ x, s.value = .double x) :
    ∃ y, t.value = .double y := by
  cases ht : t.value with
  | double y => exact ⟨y, rfl⟩
  | integer w =>
    obtain ⟨x, hx⟩ := h
    have hfits := (value_eq_integer_iff.1 ht).1.of_mem_subterms hs
    obtain ⟨v, hv⟩ := hfits.exists_integer
    rw [value_eq_integer_iff.2 ⟨hfits, hv⟩] at hx
    cases hx

end Term

/-! ## Evaluations -/

/-- The number `v` is as exact a value of the term as there is. -/
structure ExactValue (t : Term) (v : Number) : Prop where
  value_eq : t.value = v
  /-- It is an integer exactly when nothing in the term calls for a double. -/
  integer_iff : (∃ w, v = .integer w) ↔ t.divides = false ∧ t.hasDouble = false ∧ t.Fits
  /-- An integer is the exact value of the term. -/
  integer_eq : ∀ w, v = .integer w → t.integerValue? = some w.toInt
  /-- Otherwise it is a double. -/
  double : ¬(t.divides = false ∧ t.hasDouble = false ∧ t.Fits) → ∃ x, v = .double x
  /-- Everything around a double is a double. -/
  spreads : ∀ u ∈ t.subterms, ∀ s ∈ u.subterms, (∃ x, s.value = .double x) →
    ∃ y, u.value = .double y

theorem Term.exactValue (t : Term) : ExactValue t t.value := by
  have hinteger : (∃ w, t.value = .integer w) ↔
      t.divides = false ∧ t.hasDouble = false ∧ t.Fits := by
    constructor
    · rintro ⟨w, hw⟩
      obtain ⟨hfits, hexact⟩ := value_eq_integer_iff.1 hw
      obtain ⟨hdivides, hdouble⟩ := isSome_integerValue?_iff.1 (Option.isSome_of_eq_some hexact)
      exact ⟨hdivides, hdouble, hfits⟩
    · rintro ⟨-, -, hfits⟩
      obtain ⟨w, hw⟩ := hfits.exists_integer
      exact ⟨w, value_eq_integer_iff.2 ⟨hfits, hw⟩⟩
  refine ⟨rfl, hinteger, fun w hw => (value_eq_integer_iff.1 hw).2, fun h => ?_,
    fun u _ s hs => exists_double_of_mem_subterms hs⟩
  cases hv : t.value with
  | double x => exact ⟨x, rfl⟩
  | integer w => exact absurd (hinteger.1 ⟨w, hv⟩) h

/-- **No integer arithmetic wraps.**  What a list of lexemes evaluates to is the
value of the one term that the list denotes: its exact integer value, if there
is one and 64 bits hold it and those of all its parts, and a double otherwise. -/
theorem Notation.evaluateItems_exact (n : Notation) (items : List Lexeme) (v : Number)
    (h : n.evaluateItems items = .ok v) :
    ∃ t, (∀ t', n.Denotes items t' ↔ t' = t) ∧ ExactValue t v := by
  obtain ⟨t, ht, rfl⟩ := exists_denotes h
  refine ⟨t, fun t' => ⟨fun ht' => ht'.unique ht, ?_⟩, t.exactValue⟩
  rintro rfl
  exact ht

theorem Notation.evaluateItems_exact_minimum :
    let items : List Lexeme := [⟨.operator .sub, .single 0⟩,
      ⟨.number (.integer Int64.maxValue), ⟨1, 19⟩⟩, ⟨.operator .sub, .single 21⟩,
      ⟨.number (.integer 1), .single 23⟩]
    infixed.evaluateItems items = .ok (.integer Int64.minValue) ∧
      ∃ t, (∀ t', infixed.Denotes items t' ↔ t' = t) ∧ ExactValue t (.integer Int64.minValue) :=
  ⟨rfl, evaluateItems_exact infixed _ _ rfl⟩

end Reckoner
