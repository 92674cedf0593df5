/-!
# Byte offsets into text

Positions in a text are counted in bytes of its UTF-8 encoding, while the text
itself is a list of characters.  This file cuts a list of characters at a byte
offset.  An offset that falls inside a character, or past the end, is not a
place where a text can be cut, and the cut is refused.
-/

namespace Reckoner

/-! ## Cutting at a byte -/

/-- Moves characters from `rest` to the front of `taken`, newest first, until
`bytes` bytes have been passed. -/
def cutAtByte? (taken : List Char) : (bytes : Nat) → (rest : List Char) →
    Option (List Char × List Char)
  | 0, rest => some (taken.reverse, rest)
  | _ + 1, [] => none
  | bytes + 1, c :: rest =>
    if c.utf8Size ≤ bytes + 1 then
      cutAtByte? (c :: taken) (bytes + 1 - c.utf8Size) rest
    else
      none

/-- The parts of a text before and from byte `offset`, when a character starts
or the text ends there. -/
def splitAtByte? (offset : Nat) (text : List Char) : Option (List Char × List Char) :=
  cutAtByte? [] offset text

/-- The number of bytes a text takes. -/
def byteCount : List Char → Nat
  | [] => 0
  | c :: text => c.utf8Size + byteCount text

/-! ## Laws -/

@[simp] theorem byteCount_nil : byteCount [] = 0 := rfl

@[simp] theorem byteCount_cons (c : Char) (text : List Char) :
    byteCount (c :: text) = c.utf8Size + byteCount text := rfl

@[simp] theorem byteCount_append (a b : List Char) :
    byteCount (a ++ b) = byteCount a + byteCount b := by
  induction a with
  | nil => simp
  | cons c a ih => simp [ih, Nat.add_assoc]

theorem cutAtByte?_append (taken a b : List Char) :
    cutAtByte? taken (byteCount a) (a ++ b) = some (taken.reverse ++ a, b) := by
  induction a generalizing taken with
  | nil => simp [cutAtByte?]
  | cons c a ih =>
    have hc := c.utf8Size_pos
    obtain ⟨m, hm⟩ : ∃ m, byteCount (c :: a) = m + 1 :=
      ⟨byteCount (c :: a) - 1, by rw [byteCount_cons]; omega⟩
    rw [hm, List.cons_append, cutAtByte?]
    rw [byteCount_cons] at hm
    rw [if_pos (by omega), show m + 1 - c.utf8Size = byteCount a by omega, ih]
    simp

/-- A text is cut after any of its parts at the number of bytes of that part. -/
theorem splitAtByte?_append (a b : List Char) :
    splitAtByte? (byteCount a) (a ++ b) = some (a, b) := by
  rw [splitAtByte?, cutAtByte?_append]
  rfl

theorem eq_append_of_cutAtByte? {taken rest a b : List Char} {bytes : Nat}
    (h : cutAtByte? taken bytes rest = some (a, b)) :
    ∃ mid, a = taken.reverse ++ mid ∧ rest = mid ++ b ∧ byteCount mid = bytes := by
  fun_induction cutAtByte? taken bytes rest with
  | case1 taken rest =>
    obtain ⟨rfl, rfl⟩ := Prod.mk.inj (Option.some.inj h)
    exact ⟨[], by simp, rfl, rfl⟩
  | case2 => simp at h
  | case3 taken bytes c rest hc ih =>
    obtain ⟨mid, rfl, rfl, hm⟩ := ih h
    refine ⟨c :: mid, by simp, rfl, ?_⟩
    rw [byteCount_cons]
    omega
  | case4 => simp at h

/-- The two parts of a cut make up the text, and the first takes as many bytes
as were asked for. -/
theorem splitAtByte?_eq_some_iff {offset : Nat} {text a b : List Char} :
    splitAtByte? offset text = some (a, b) ↔ text = a ++ b ∧ byteCount a = offset := by
  constructor
  · intro h
    obtain ⟨mid, rfl, rfl, hm⟩ := eq_append_of_cutAtByte? h
    exact ⟨rfl, hm⟩
  · rintro ⟨rfl, rfl⟩
    exact splitAtByte?_append a b

end Reckoner
