import Reckoner.Menu
import Reckoner.Proofs.Exactness
import Reckoner.Proofs.Text.Blank
import Reckoner.Proofs.Token.Literals

/-!
# What is typed at the menu

A choice is a numeral with blanks around it.  Which texts are numerals, and of which
integers, is said without reading them (`Numeral`); the texts that are read as integers
of 64 bits are these and no others (`readInt64?_eq_some_iff`).  What becomes of a choice
then depends on the integer and the bounds alone (`readChoice_eq_iff`), and what becomes
of a line of the menu on the integer alone (`Menu.read_eq_iff`).

Main statement: `Menu.read_classified`.
-/

namespace Reckoner

variable {text digits : List Char} {typed : String} {n : Int} {v w least greatest : Int64}

/-! ## Numerals -/

/-- The numerals of an integer: one digit or more, with or without a sign before them. -/
inductive Numeral : List Char → Int → Prop
  /-- Digits without a sign. -/
  | unsigned {digits : List Char} (hne : digits ≠ []) (hdigits : ∀ c ∈ digits, c.isDigit = true) :
      Numeral digits (digitsValue digits)
  /-- A plus sign makes no difference. -/
  | plus {digits : List Char} (hne : digits ≠ []) (hdigits : ∀ c ∈ digits, c.isDigit = true) :
      Numeral ('+' :: digits) (digitsValue digits)
  /-- A minus sign makes the integer negative. -/
  | minus {digits : List Char} (hne : digits ≠ []) (hdigits : ∀ c ∈ digits, c.isDigit = true) :
      Numeral ('-' :: digits) (-(digitsValue digits : Int))

/-- Behind the sign stand digits, and nothing else. -/
theorem readInt?_eq_some_iff_of_splitSign {negative : Bool}
    (h : splitSign text = (negative, digits)) :
    readInt? text = some n ↔ digits ≠ [] ∧ (∀ c ∈ digits, c.isDigit = true) ∧
      n = if negative then -(digitsValue digits : Int) else digitsValue digits := by
  unfold readInt?
  rw [h]
  dsimp only
  rw [ofDigits_eq_digitsValue, ← apply_ite some]
  by_cases hread : digits ≠ [] ∧ ∀ c ∈ digits, c.isDigit = true
  · have hdigits : (digits.isEmpty || !digits.all Char.isDigit) = false := by
      rw [List.isEmpty_eq_false_iff.2 hread.1, List.all_eq_true.2 hread.2]
      rfl
    rw [hdigits, if_neg Bool.false_ne_true, Option.some_inj, eq_comm, ← and_assoc]
    exact (and_iff_right hread).symm
  · have hnot : (digits.isEmpty || !digits.all Char.isDigit) = true := by
      rw [Bool.or_eq_true, List.isEmpty_iff, Bool.not_eq_true', ← Bool.not_eq_true,
        List.all_eq_true]
      exact or_not_of_imp fun hdigits => not_not.1 fun hne => hread ⟨hne, hdigits⟩
    rw [hnot, if_pos rfl]
    exact iff_of_false nofun fun hsome => hread ⟨hsome.1, hsome.2.1⟩

theorem splitSign_cases (text : List Char) :
    (∃ digits, text = '-' :: digits ∧ splitSign text = (true, digits)) ∨
      (∃ digits, text = '+' :: digits ∧ splitSign text = (false, digits)) ∨
      splitSign text = (false, text) := by
  unfold splitSign
  split
  · next digits => exact .inl ⟨digits, rfl, rfl⟩
  · next digits => exact .inr (.inl ⟨digits, rfl, rfl⟩)
  · exact .inr (.inr rfl)

/-- Digits have no sign. -/
theorem splitSign_of_isDigit (h : ∀ c ∈ digits, c.isDigit = true) :
    splitSign digits = (false, digits) := by
  rcases splitSign_cases digits with ⟨rest, rfl, -⟩ | ⟨rest, rfl, -⟩ | hsplit
  · exact absurd (h '-' List.mem_cons_self) (by decide)
  · exact absurd (h '+' List.mem_cons_self) (by decide)
  · exact hsplit

/-- **The texts that are read as an integer are its numerals.** -/
theorem readInt?_eq_some_iff : readInt? text = some n ↔ Numeral text n := by
  constructor
  · intro h
    rcases splitSign_cases text with ⟨digits, rfl, hsplit⟩ | ⟨digits, rfl, hsplit⟩ | hsplit
    · obtain ⟨hne, hdigits, rfl⟩ := (readInt?_eq_some_iff_of_splitSign hsplit).1 h
      exact .minus hne hdigits
    · obtain ⟨hne, hdigits, rfl⟩ := (readInt?_eq_some_iff_of_splitSign hsplit).1 h
      exact .plus hne hdigits
    · obtain ⟨hne, hdigits, rfl⟩ := (readInt?_eq_some_iff_of_splitSign hsplit).1 h
      exact .unsigned hne hdigits
  · intro h
    cases h with
    | unsigned hne hdigits =>
      exact (readInt?_eq_some_iff_of_splitSign (splitSign_of_isDigit hdigits)).2
        ⟨hne, hdigits, rfl⟩
    | plus hne hdigits => exact (readInt?_eq_some_iff_of_splitSign rfl).2 ⟨hne, hdigits, rfl⟩
    | minus hne hdigits => exact (readInt?_eq_some_iff_of_splitSign rfl).2 ⟨hne, hdigits, rfl⟩

/-! ## Texts that stand for an integer -/

/-- A text stands for an integer of 64 bits if it is a numeral of it, apart from the blanks
at its two ends. -/
def StandsFor (typed : String) (v : Int64) : Prop :=
  ∃ kept, Trimmed typed.toList kept ∧ Numeral kept v.toInt

theorem readInt64?_eq_some_iff : readInt64? typed = some v.toInt ↔ StandsFor typed v := by
  have hfits : (Number.ofInt? v.toInt).isSome = true := by rw [Number.ofInt?_toInt]; rfl
  unfold readInt64? StandsFor
  rw [Option.filter_eq_some_iff, readInt?_eq_some_iff]
  simp only [trimmed_iff, exists_eq_left', hfits, and_true]

/-- Integers beyond 64 bits are not read. -/
theorem exists_toInt_of_readInt64? (h : readInt64? typed = some n) : ∃ v : Int64, n = v.toInt := by
  have hfits := (Option.filter_eq_some_iff.1 h).2
  rw [← inRange_iff]
  by_contra hrange
  unfold InRange at hrange
  rw [Number.ofInt?, dif_neg hrange] at hfits
  cases hfits

/-- A text stands for one integer at most. -/
theorem StandsFor.unique (hv : StandsFor typed v) (hw : StandsFor typed w) : v = w := by
  rw [← readInt64?_eq_some_iff] at hv hw
  rw [hv] at hw
  exact Int64.toInt_inj.1 (Option.some.inj hw)

theorem readInt64?_eq_none (h : ∀ v, ¬ StandsFor typed v) : readInt64? typed = none := by
  refine Option.eq_none_iff_forall_ne_some.2 fun n hn => ?_
  obtain ⟨v, rfl⟩ := exists_toInt_of_readInt64? hn
  exact h v (readInt64?_eq_some_iff.1 hn)

/-! ## Choices between two bounds -/

/-- What becomes of a text that is typed as a choice between two bounds. -/
inductive ChoiceVerdict (typed : String) (least greatest : Int64) : Except ChoiceFault Int → Prop
  /-- The text is no numeral, or one of an integer that 64 bits do not hold. -/
  | notAnInteger (h : ∀ v, ¬ StandsFor typed v) :
      ChoiceVerdict typed least greatest (.error (.notAnInteger typed))
  /-- The integer is below the least one. -/
  | tooSmall {v : Int64} (h : StandsFor typed v) (hlow : v < least) :
      ChoiceVerdict typed least greatest (.error (.tooSmall least.toInt))
  /-- The integer is above the greatest one, and not below the least one too. -/
  | tooLarge {v : Int64} (h : StandsFor typed v) (hlow : ¬ v < least) (hhigh : greatest < v) :
      ChoiceVerdict typed least greatest (.error (.tooLarge greatest.toInt))
  /-- The integer is between the bounds. -/
  | accepted {v : Int64} (h : StandsFor typed v) (hlow : ¬ v < least) (hhigh : ¬ greatest < v) :
      ChoiceVerdict typed least greatest (.ok v.toInt)

theorem readChoice_of_standsFor (h : StandsFor typed v) :
    readChoice typed least.toInt greatest.toInt =
      if v < least then .error (.tooSmall least.toInt)
      else if greatest < v then .error (.tooLarge greatest.toInt)
      else .ok v.toInt := by
  simp only [readChoice, readInt64?_eq_some_iff.2 h, Int64.lt_iff_toInt_lt]

theorem readChoice_of_not_standsFor (h : ∀ v, ¬ StandsFor typed v) (least greatest : Int) :
    readChoice typed least greatest = .error (.notAnInteger typed) := by
  simp only [readChoice, readInt64?_eq_none h]

theorem choiceVerdict_readChoice (typed : String) (least greatest : Int64) :
    ChoiceVerdict typed least greatest (readChoice typed least.toInt greatest.toInt) := by
  by_cases h : ∃ v, StandsFor typed v
  · obtain ⟨v, hv⟩ := h
    rw [readChoice_of_standsFor hv]
    split
    · next hlow => exact .tooSmall hv hlow
    · next hlow =>
      split
      · next hhigh => exact .tooLarge hv hlow hhigh
      · next hhigh => exact .accepted hv hlow hhigh
  · have hnot := not_exists.1 h
    rw [readChoice_of_not_standsFor hnot]
    exact .notAnInteger hnot

/-- **A choice is judged by its integer and the bounds alone.** -/
theorem readChoice_eq_iff {outcome : Except ChoiceFault Int} :
    readChoice typed least.toInt greatest.toInt = outcome ↔
      ChoiceVerdict typed least greatest outcome := by
  constructor
  · rintro rfl
    exact choiceVerdict_readChoice typed least greatest
  · intro h
    cases h with
    | notAnInteger h => exact readChoice_of_not_standsFor h _ _
    | tooSmall h hlow => rw [readChoice_of_standsFor h, if_pos hlow]
    | tooLarge h hlow hhigh => rw [readChoice_of_standsFor h, if_neg hlow, if_pos hhigh]
    | accepted h hlow hhigh => rw [readChoice_of_standsFor h, if_neg hlow, if_neg hhigh]

/-! ## Lines of the menu -/

/-- The number of a notation is one more than its place in the list. -/
theorem Notation.ofNumber?_succ (i : Nat) : ofNumber? (i + 1) = all[i]? := by
  have hplace : ((i : Int) + 1 - 1).toNat = i := by omega
  rw [ofNumber?, if_pos (by omega), hplace]

namespace Menu

/-- What becomes of a line that is typed at the menu. -/
inductive Verdict (typed : String) : Except ChoiceFault MenuChoice → Prop
  /-- The line is no numeral, or one of an integer that 64 bits do not hold. -/
  | notAnInteger (h : ∀ v, ¬ StandsFor typed v) : Verdict typed (.error (.notAnInteger typed))
  /-- The integer is below the number of the first notation. -/
  | tooSmall {v : Int64} (h : StandsFor typed v) (hlow : v < 1) :
      Verdict typed (.error (.tooSmall 1))
  /-- The integer is above the number that stands for leaving. -/
  | tooLarge {v : Int64} (h : StandsFor typed v) (hhigh : 5 < v) :
      Verdict typed (.error (.tooLarge 5))
  /-- The integer is the number of a notation; they are numbered from one on. -/
  | evaluate {v : Int64} {i : Nat} {n : Notation} (h : StandsFor typed v)
      (hv : v.toInt = i + 1) (hn : Notation.all[i]? = some n) :
      Verdict typed (.ok (.evaluate n))
  /-- The integer is the number after those of the four notations. -/
  | quit (h : StandsFor typed 5) : Verdict typed (.ok .quit)

theorem read_of_standsFor (h : StandsFor typed v) :
    read typed =
      if v < 1 then .error (.tooSmall 1)
      else if 5 < v then .error (.tooLarge 5)
      else match Notation.ofNumber? v.toInt with
        | some n => .ok (.evaluate n)
        | none => .ok .quit := by
  have hchoice : readChoice typed 1 quitNumber = _ := @readChoice_of_standsFor typed v 1 5 h
  rw [read, hchoice]
  split_ifs <;> rfl

theorem read_of_not_standsFor (h : ∀ v, ¬ StandsFor typed v) :
    read typed = .error (.notAnInteger typed) := by
  rw [read, readChoice_of_not_standsFor h]

/-- The menu refuses what is no choice between one and five, for the same reason. -/
theorem read_eq_error_iff {fault : ChoiceFault} :
    read typed = .error fault ↔ readChoice typed 1 5 = .error fault := by
  have hquit : (quitNumber : Int) = 5 := rfl
  rw [read, hquit]
  cases readChoice typed 1 5 with
  | error fault' => simp
  | ok n =>
    dsimp only
    cases Notation.ofNumber? n <;> simp

theorem verdict_read (typed : String) : Verdict typed (read typed) := by
  by_cases h : ∃ v, StandsFor typed v
  · obtain ⟨v, hv⟩ := h
    rw [read_of_standsFor hv]
    split
    · next hlow => exact .tooSmall hv hlow
    · next hlow =>
      split
      · next hhigh => exact .tooLarge hv hhigh
      · next hhigh =>
        rw [Int64.lt_iff_toInt_lt] at hlow hhigh
        change ¬ v.toInt < 1 at hlow
        change ¬ 5 < v.toInt at hhigh
        obtain ⟨i, hi⟩ : ∃ i : Nat, v.toInt = i + 1 := ⟨(v.toInt - 1).toNat, by omega⟩
        rw [hi, Notation.ofNumber?_succ]
        cases hn : Notation.all[i]? with
        | some n => exact .evaluate hv hi hn
        | none =>
          have hlast : 4 ≤ i := List.getElem?_eq_none_iff.1 hn
          have hfive : v = 5 := Int64.toInt_inj.1 (by show v.toInt = 5; omega)
          exact .quit (hfive ▸ hv)
  · have hnot := not_exists.1 h
    rw [read_of_not_standsFor hnot]
    exact .notAnInteger hnot

/-- **A line of the menu is judged by its integer alone.** -/
theorem read_eq_iff {outcome : Except ChoiceFault MenuChoice} :
    read typed = outcome ↔ Verdict typed outcome := by
  constructor
  · rintro rfl
    exact verdict_read typed
  · intro h
    cases h with
    | notAnInteger h => exact read_of_not_standsFor h
    | tooSmall h hlow => rw [read_of_standsFor h, if_pos hlow]
    | @tooLarge v h hhigh =>
      have hlow : ¬ v < 1 := fun hlow => absurd (Int64.lt_trans hhigh hlow) (by decide)
      rw [read_of_standsFor h, if_neg hlow, if_pos hhigh]
    | @evaluate v i n h hv hn =>
      obtain ⟨hi, -⟩ := List.getElem?_eq_some_iff.1 hn
      have hlength : i < 4 := hi
      have hlow : ¬ v < 1 := by
        rw [Int64.lt_iff_toInt_lt, hv]
        show ¬ (i : Int) + 1 < 1
        omega
      have hhigh : ¬ 5 < v := by
        rw [Int64.lt_iff_toInt_lt, hv]
        show ¬ 5 < (i : Int) + 1
        omega
      rw [read_of_standsFor h, if_neg hlow, if_neg hhigh, hv, Notation.ofNumber?_succ, hn]
    | quit h => exact read_of_standsFor h

/-- **What is typed at the menu is classified completely.**  A choice between two bounds
is a numeral of 64 bits with blanks around it; a value below the least one is refused
before one above the greatest, and all other texts are refused as they were typed.  A line
of the menu chooses a notation by its number, leaves only on the number five, and is
refused for the reason for which it is no choice between one and five. -/
theorem read_classified (typed : String) :
    (∀ (least greatest : Int64) (outcome : Except ChoiceFault Int),
      readChoice typed least.toInt greatest.toInt = outcome ↔
        ChoiceVerdict typed least greatest outcome) ∧
    (∀ outcome, read typed = outcome ↔ Verdict typed outcome) ∧
    (∀ fault, read typed = .error fault ↔ readChoice typed 1 5 = .error fault) ∧
    (read typed = .ok .quit ↔ StandsFor typed 5) := by
  refine ⟨fun _ _ _ => readChoice_eq_iff, fun _ => read_eq_iff, fun _ => read_eq_error_iff, ?_⟩
  rw [read_eq_iff]
  refine ⟨fun h => ?_, .quit⟩
  cases h with
  | quit h => exact h

/-- The least integer of 64 bits is too small a choice, and the one below it is none. -/
example : [" +0005\t", "\u3000-9223372036854775808", "-9223372036854775809"].map read =
    [.ok .quit, .error (.tooSmall 1), .error (.notAnInteger "-9223372036854775809")] := by
  decide +kernel

end Menu

end Reckoner
