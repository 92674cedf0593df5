/-!
# Numbers

A value is a signed 64-bit integer or a double.  Addition, subtraction,
multiplication and negation of integers are exact as long as the result fits
into 64 bits; otherwise, and whenever a double takes part, they are carried out
in doubles.  Division always gives a double.
-/

namespace Reckoner

/-- A value of an expression. -/
inductive Number where
  /-- A signed 64-bit integer. -/
  | integer (value : Int64)
  /-- An IEEE double. -/
  | double (value : Float)
deriving DecidableEq, Inhabited

namespace Number

/-! ## Conversions -/

/-- The integer `n`, when 64 bits hold it. -/
def ofInt? (n : Int) : Option Number :=
  if h : Int64.minValue.toInt ≤ n ∧ n ≤ Int64.maxValue.toInt then
    some (.integer (.ofIntLE n h.1 h.2))
  else
    none

/-- Every 64-bit integer is held. -/
@[simp] theorem ofInt?_toInt (v : Int64) : ofInt? v.toInt = some (.integer v) := by
  have h := And.intro v.minValue_le_toInt v.toInt_le
  rw [ofInt?, dif_pos h, Int64.ofIntLE_toInt]

/-- An integer that is held is held with its value. -/
theorem ofInt?_eq_some_iff {n : Int} {v : Int64} :
    ofInt? n = some (.integer v) ↔ n = v.toInt := by
  constructor
  · intro h
    rw [ofInt?] at h
    split at h
    · next hn =>
      rw [← Number.integer.inj (Option.some.inj h), Int64.toInt_ofIntLE]
    · simp at h
  · rintro rfl
    exact ofInt?_toInt v

/-- The value as a double: an integer becomes the double nearest to it. -/
def toFloat : Number → Float
  | integer v => .ofInt v.toInt
  | double x => x

/-! ## Arithmetic -/

/-- Combines two numbers exactly, when both are integers and 64 bits hold the
exact result, and in doubles otherwise. -/
def combine (exact : Int → Int → Int) (rounded : Float → Float → Float) (a b : Number) :
    Number :=
  match a, b with
  | integer v, integer w =>
    (ofInt? (exact v.toInt w.toInt)).getD (.double (rounded a.toFloat b.toFloat))
  | _, _ => .double (rounded a.toFloat b.toFloat)

instance : Add Number := ⟨combine (· + ·) (· + ·)⟩

instance : Sub Number := ⟨combine (· - ·) (· - ·)⟩

instance : Mul Number := ⟨combine (· * ·) (· * ·)⟩

instance : Div Number := ⟨fun a b => .double (a.toFloat / b.toFloat)⟩

/-- The number with the opposite sign; the opposite of the least integer is a
double. -/
def neg : Number → Number
  | integer v => (ofInt? (-v.toInt)).getD (.double (-(integer v).toFloat))
  | double x => .double (-x)

instance : Neg Number := ⟨neg⟩

/-! ## Comparison -/

/-- How far apart two doubles may lie and still agree. -/
def tolerance : Float := 1e-10

/-- Two integers agree when they are equal.  As soon as a double takes part,
the values are compared as doubles and agree when they are equal or closer to
each other than the tolerance. -/
def agrees : Number → Number → Bool
  | integer v, integer w => v == w
  | a, b =>
    let x := a.toFloat
    let y := b.toFloat
    x == y || (x - y).abs < tolerance

end Number

end Reckoner
