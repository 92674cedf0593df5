import Reckoner.Double.Text
import Reckoner.Proofs.Token.Literals
import Reckoner.Proofs.Token.Segmentation

/-!
# Reading printed tokens

Tokens that are printed without a sign and without a power of ten are words, so they
are read back from their texts (`tokenize_intercalate`).  A positive double between
`0.0001` and `10 ^ 16` is printed as a literal whose value is that of its shortest
decimal, and the shortest decimal has the pattern of the double.
-/

namespace Reckoner

open Double TokenStream
open Float.Model.UnpackedFloat (Sign)

/-! ## Digits written out -/

theorem digitsValue_replicate (k : Nat) : digitsValue (List.replicate k '0') = 0 := by
  rw [← ofDigits_eq_digitsValue]
  unfold ofDigits
  rw [Nat.ofDigitChars_replicate_zero, Nat.mul_zero]

theorem isDigit_of_mem_replicate (k : Nat) : ∀ c ∈ List.replicate k '0', c.isDigit = true := by
  intro c hc
  rw [List.eq_of_mem_replicate hc]
  rfl

theorem Literal.value_eq_div (l : Literal) :
    l.value = digitsValue (l.whole ++ l.places) / 10 ^ l.places.length := by
  rw [← value_decimal]
  unfold decimal Decimal.value
  dsimp only
  rw [ofDigits_eq_digitsValue, zpow_neg, zpow_natCast, div_eq_mul_inv]

/-- What is written is a literal with a point, and its value is that of the digits. -/
def WritesValue (text : List Char) (q : ℚ) : Prop :=
  ∃ l : Literal, text = l.chars ∧ l.fraction ≠ none ∧ l.value = q

theorem writesValue {whole places : List Char} (hne : whole ≠ [])
    (hwhole : ∀ c ∈ whole, c.isDigit = true) (hplaces : ∀ c ∈ places, c.isDigit = true) :
    WritesValue (whole ++ '.' :: places)
      (digitsValue (whole ++ places) / 10 ^ places.length) := by
  refine ⟨⟨whole, some places, hne, hwhole, ?_⟩, rfl, by simp, Literal.value_eq_div _⟩
  rintro _ ⟨⟩
  exact hplaces

section

variable {digits : List Char} (hne : digits ≠ []) (hdigits : ∀ c ∈ digits, c.isDigit = true)

/-- Zeros at the front of the digits do not count. -/
theorem digitsValue_replicate_append (k : Nat) (digits : List Char) :
    digitsValue (List.replicate k '0' ++ digits) = digitsValue digits := by
  rw [digitsValue_append, digitsValue_replicate, Nat.mul_zero, Nat.zero_add]

/-- Each zero at the end of the digits counts ten times. -/
theorem digitsValue_append_replicate (digits : List Char) (k : Nat) :
    digitsValue (digits ++ List.replicate k '0') = 10 ^ k * digitsValue digits := by
  rw [digitsValue_append, digitsValue_replicate, List.length_replicate, Nat.add_zero]

include hdigits in
/-- Numbers below one are written as zeros before the digits. -/
theorem writesValue_small (k : Nat) :
    WritesValue ('0' :: '.' :: (List.replicate k '0' ++ digits))
      (digitsValue digits / 10 ^ (k + digits.length)) := by
  have hplaces : ∀ c ∈ List.replicate k '0' ++ digits, c.isDigit = true := by
    intro c hc
    rcases List.mem_append.1 hc with hc | hc
    · exact isDigit_of_mem_replicate k c hc
    · exact hdigits c hc
  have hwrites := writesValue (List.cons_ne_nil '0' []) (isDigit_of_mem_replicate 1) hplaces
  have hvalue : digitsValue (['0'] ++ (List.replicate k '0' ++ digits)) = digitsValue digits :=
    digitsValue_replicate_append (k + 1) digits
  rw [hvalue, List.length_append, List.length_replicate] at hwrites
  exact hwrites

include hne hdigits in
/-- Whole numbers are written with zeros behind the digits, and one more behind the
point. -/
theorem writesValue_whole (k : Nat) :
    WritesValue ((digits ++ List.replicate k '0') ++ ['.', '0'])
      (digitsValue digits * 10 ^ k) := by
  have hwhole : ∀ c ∈ digits ++ List.replicate k '0', c.isDigit = true := by
    intro c hc
    rcases List.mem_append.1 hc with hc | hc
    · exact hdigits c hc
    · exact isDigit_of_mem_replicate k c hc
  have hnonempty : digits ++ List.replicate k '0' ≠ [] := by
    intro h
    exact hne (List.append_eq_nil_iff.1 h).1
  have hwrites := writesValue hnonempty hwhole (isDigit_of_mem_replicate 1)
  have hvalue : digitsValue ((digits ++ List.replicate k '0') ++ List.replicate 1 '0') =
      10 * (10 ^ k * digitsValue digits) := by
    rw [digitsValue_append_replicate, digitsValue_append_replicate, pow_one]
  rw [hvalue, List.length_replicate, pow_one, Nat.cast_mul, Nat.cast_ofNat,
    mul_div_cancel_left₀ _ (by norm_num), Nat.cast_mul, Nat.cast_pow, Nat.cast_ofNat,
    mul_comm] at hwrites
  exact hwrites

include hdigits in
/-- Other numbers are written with the point among the digits. -/
theorem writesValue_split {k : Nat} (hk : k ≠ 0) (hlt : k < digits.length) :
    WritesValue (digits.take k ++ '.' :: digits.drop k)
      (digitsValue digits / 10 ^ (digits.length - k)) := by
  have htake : digits.take k ≠ [] := by
    intro h
    rcases List.take_eq_nil_iff.1 h with rfl | rfl
    · exact hk rfl
    · exact absurd hlt (Nat.not_lt_zero k)
  have hwhole : ∀ c ∈ digits.take k, c.isDigit = true :=
    fun c hc => hdigits c (List.mem_of_mem_take hc)
  have hplaces : ∀ c ∈ digits.drop k, c.isDigit = true :=
    fun c hc => hdigits c (List.mem_of_mem_drop hc)
  have hwrites := writesValue htake hwhole hplaces
  rwa [List.take_append_drop, List.length_drop] at hwrites

include hne hdigits in
/-- Digits that are written out without a power of ten keep their value. -/
theorem writesValue_plain (exponent : Int) :
    WritesValue (numberLayout.plain digits exponent)
      (digitsValue digits * 10 ^ (exponent + 1 - digits.length)) := by
  unfold DecimalLayout.plain
  by_cases hneg : exponent < 0
  · have hplaces : exponent + 1 - digits.length =
        -(((-exponent - 1).toNat + digits.length : Nat) : Int) := by omega
    rw [if_pos hneg, hplaces, zpow_neg, zpow_natCast, ← div_eq_mul_inv]
    exact writesValue_small hdigits _
  · rw [if_neg hneg]
    dsimp only
    generalize hwhole : exponent.toNat + 1 = k
    by_cases hlt : k < digits.length
    · have hplaces : exponent + 1 - digits.length = -((digits.length - k : Nat) : Int) := by omega
      have hdrop : digits.drop k ≠ [] := by
        intro h
        exact absurd (List.drop_eq_nil_iff.1 h) (Nat.not_le.2 hlt)
      rw [hplaces, zpow_neg, zpow_natCast, ← div_eq_mul_inv,
        Nat.sub_eq_zero_of_le (Nat.le_of_lt hlt)]
      have hwrites := writesValue_split hdigits (k := k) (by omega) hlt
      cases hfraction : digits.drop k with
      | nil => exact absurd hfraction hdrop
      | cons c fraction =>
        rw [hfraction] at hwrites
        simpa [numberLayout] using hwrites
    · have hle := Nat.not_lt.1 hlt
      have hplaces : exponent + 1 - digits.length = ((k - digits.length : Nat) : Int) := by omega
      rw [hplaces, zpow_natCast, List.take_of_length_le hle, List.drop_eq_nil_iff.2 hle]
      exact writesValue_whole hne hdigits _

end

/-! ## Decimals written out -/

theorem natChars_ne_nil (n : Nat) : natChars n ≠ [] := Nat.toDigits_ne_nil

theorem isDigit_of_mem_natChars (n : Nat) : ∀ c ∈ natChars n, c.isDigit = true :=
  fun _ hc => Nat.isDigit_of_mem_toDigits (by decide) (by decide) hc

theorem digitsValue_natChars (n : Nat) : digitsValue (natChars n) = n := by
  rw [← ofDigits_eq_digitsValue, ofDigits_natChars]

/-- A decimal lies between two powers of ten, as its digits say. -/
theorem Decimal.value_bounds {d : Decimal} (hd : d.digits ≠ 0) :
    10 ^ (d.exponent + ((natChars d.digits).length - 1 : Nat)) ≤ d.value ∧
      d.value < 10 ^ (d.exponent + ((natChars d.digits).length - 1 : Nat) + 1) := by
  obtain ⟨k, hk⟩ : ∃ k, (natChars d.digits).length = k + 1 :=
    Nat.exists_eq_succ_of_ne_zero (List.length_eq_zero_iff.not.2 (natChars_ne_nil _))
  have hten : (10 : ℚ) ≠ 0 := by norm_num
  have hpos : (0 : ℚ) < 10 ^ d.exponent := zpow_pos (by norm_num) _
  have hupper : d.digits < 10 ^ (k + 1) :=
    (Nat.length_toDigits_le_iff (by decide) (Nat.succ_pos k)).1 (Nat.le_of_eq hk)
  have hlower : 10 ^ k ≤ d.digits := by
    by_cases hzero : k = 0
    · rw [hzero, pow_zero]
      exact Nat.one_le_iff_ne_zero.2 hd
    · by_contra hlt
      have hle := (Nat.length_toDigits_le_iff (n := d.digits) (by decide)
        (Nat.pos_of_ne_zero hzero)).2 (Nat.not_le.1 hlt)
      rw [← natChars, hk] at hle
      omega
  rw [hk, Nat.add_sub_cancel]
  unfold value
  constructor
  · rw [zpow_add₀ hten, mul_comm, zpow_natCast]
    exact mul_le_mul_of_nonneg_right (by exact_mod_cast hlower) hpos.le
  · rw [add_assoc, zpow_add₀ hten, mul_comm]
    refine mul_lt_mul_of_pos_left ?_ hpos
    exact_mod_cast hupper

/-- Decimals from `0.0001` up to `10 ^ 16` are written out. -/
theorem writesValue_write {d : Decimal} (hlow : 10 ^ (-4 : Int) ≤ d.value)
    (hhigh : d.value < 10 ^ (16 : Int)) : WritesValue (numberLayout.write d) d.value := by
  have hone : (1 : ℚ) < 10 := by norm_num
  have hd : d.digits ≠ 0 := by
    intro hzero
    have hpos : (0 : ℚ) < 10 ^ (-4 : Int) := zpow_pos (by norm_num) _
    rw [Decimal.value, hzero, Nat.cast_zero, zero_mul] at hlow
    linarith
  obtain ⟨hle, hlt⟩ := Decimal.value_bounds hd
  unfold DecimalLayout.write
  dsimp only
  have hplaces : d.exponent + ((natChars d.digits).length - 1 : Nat) + 1 -
      (natChars d.digits).length = d.exponent := by
    have hpos : 0 < (natChars d.digits).length := List.length_pos_iff.2 (natChars_ne_nil _)
    omega
  have hleast : -4 < d.exponent + ((natChars d.digits).length - 1 : Nat) + 1 :=
    (zpow_lt_zpow_iff_right₀ hone).1 (lt_of_le_of_lt hlow hlt)
  have hgreatest : d.exponent + ((natChars d.digits).length - 1 : Nat) < 16 :=
    (zpow_lt_zpow_iff_right₀ hone).1 (lt_of_le_of_lt hle hhigh)
  have hplain : numberLayout.leastPlain ≤ d.exponent + ((natChars d.digits).length - 1 : Nat) ∧
      d.exponent + ((natChars d.digits).length - 1 : Nat) ≤ numberLayout.greatestPlain := by
    show -4 ≤ _ ∧ _ ≤ 15
    omega
  rw [if_pos hplain]
  have hwrites := writesValue_plain (natChars_ne_nil _) (isDigit_of_mem_natChars d.digits)
    (d.exponent + ((natChars d.digits).length - 1 : Nat))
  rwa [hplaces, digitsValue_natChars] at hwrites

/-! ## Doubles written out -/

/-- The pattern of `0.0001`. -/
def leastPlainPattern : Nat := 0x3F1A36E2EB1C432D

/-- The pattern of `10 ^ 16`. -/
def endPlainPattern : Nat := 0x4341C37937E08000

theorem nearest_ten_pow_neg_four : nearest (10 ^ (-4 : Int)) = leastPlainPattern := by
  have hvalue : (Decimal.mk 1 (-4)).value = 10 ^ (-4 : Int) := by
    rw [Decimal.value, Nat.cast_one, one_mul]
  rw [← hvalue, ← Decimal.pattern_eq_nearest]
  decide +kernel

theorem nearest_ten_pow_sixteen : nearest (10 ^ (16 : Int)) = endPlainPattern := by
  have hvalue : (Decimal.mk 1 16).value = 10 ^ (16 : Int) := by
    rw [Decimal.value, Nat.cast_one, one_mul]
  rw [← hvalue, ← Decimal.pattern_eq_nearest]
  decide +kernel

theorem shortest_leastPlainPattern : Decimal.shortest leastPlainPattern = ⟨1, -4⟩ := by
  decide +kernel

theorem writesValue_zero : WritesValue ['0', '.', '0'] 0 := by
  have hwrites := writesValue (List.cons_ne_nil '0' []) (isDigit_of_mem_replicate 1)
    (isDigit_of_mem_replicate 1)
  have hvalue : digitsValue (['0'] ++ List.replicate 1 '0') = 0 := rfl
  rw [hvalue, Nat.cast_zero, zero_div] at hwrites
  exact hwrites

/-- The shortest decimal of a double lies between the same powers of ten as the
double. -/
theorem value_shortest_bounds {p : Nat} (hlow : leastPlainPattern ≤ p)
    (hhigh : p < endPlainPattern) :
    10 ^ (-4 : Int) ≤ (Decimal.shortest p).value ∧
      (Decimal.shortest p).value < 10 ^ (16 : Int) := by
  have hnearest : nearest (Decimal.shortest p).value = p := by
    have hle : p ≤ infinityPattern := Nat.le_of_lt (Nat.lt_trans hhigh (by decide))
    rw [← Decimal.pattern_eq_nearest, Decimal.pattern_shortest hle]
  constructor
  · by_contra hlt
    have hmono := nearest_mono (Decimal.value_nonneg _) (not_le.1 hlt).le
    rw [hnearest, nearest_ten_pow_neg_four] at hmono
    -- only the pattern of the bound itself is left, and its shortest decimal is the bound
    obtain rfl : p = leastPlainPattern := Nat.le_antisymm hmono hlow
    rw [shortest_leastPlainPattern, Decimal.value, Nat.cast_one, one_mul] at hlt
    exact hlt le_rfl
  · by_contra hle
    have hpos : (0 : ℚ) ≤ 10 ^ (16 : Int) := zpow_nonneg (by norm_num) _
    have hmono := nearest_mono hpos (not_lt.1 hle)
    rw [hnearest, nearest_ten_pow_sixteen] at hmono
    omega

/-- Zero and the doubles from `0.0001` up to `10 ^ 16` are written as literals of
numbers that they are nearest to. -/
theorem writesValue_magnitudeChars {p : Nat} (hlow : p = 0 ∨ leastPlainPattern ≤ p)
    (hhigh : p < endPlainPattern) :
    ∃ q, WritesValue (magnitudeChars p) q ∧ nearest q = p := by
  have hfinite : p < infinityPattern := Nat.lt_trans hhigh (by decide)
  unfold magnitudeChars
  rw [if_neg hfinite.ne]
  rcases hlow with rfl | hlow
  · rw [if_pos rfl]
    exact ⟨0, writesValue_zero, nearest_zero⟩
  · have hpos : p ≠ 0 := by
      rintro rfl
      exact absurd hlow (by decide)
    obtain ⟨hleast, hgreatest⟩ := value_shortest_bounds hlow hhigh
    rw [if_neg hpos]
    refine ⟨(Decimal.shortest p).value, writesValue_write hleast hgreatest, ?_⟩
    rw [← Decimal.pattern_eq_nearest, Decimal.pattern_shortest hfinite.le]

/-! ## Tokens that are words -/

/-- Numbers that are printed without a sign and without a power of ten. -/
def Number.IsUnsigned : Number → Prop
  | .integer v => 0 ≤ v
  | .double x => x = 0.0 ∨ 1e-4 ≤ x ∧ x < 1e16

/-- A token whose number, if it is one, is printed without a sign and without a power
of ten. -/
def Token.IsUnsigned (t : Token) : Prop := ∀ n, t = .number n → n.IsUnsigned

theorem isDouble_ten_pow_neg_four : IsDouble 1e-4 .positive leastPlainPattern where
  le_infinityPattern := by decide
  toNat_toBits := by decide +kernel

theorem isDouble_ten_pow_sixteen : IsDouble 1e16 .positive endPlainPattern where
  le_infinityPattern := by decide
  toNat_toBits := by decide +kernel

theorem isDouble_literal_zero : IsDouble 0.0 .positive 0 where
  le_infinityPattern := by decide
  toNat_toBits := by decide +kernel

theorem exists_isDouble_of_isUnsigned {x : Float} (h : (Number.double x).IsUnsigned) :
    ∃ p, IsDouble x .positive p ∧ (p = 0 ∨ leastPlainPattern ≤ p) ∧ p < endPlainPattern := by
  rcases h with rfl | ⟨hlow, hhigh⟩
  · exact ⟨0, isDouble_literal_zero, .inl rfl, by decide⟩
  · obtain ⟨s, p, hx⟩ := exists_isDouble_of_lt hhigh
    rw [isDouble_ten_pow_neg_four.le_iff hx] at hlow
    rw [hx.lt_iff isDouble_ten_pow_sixteen] at hhigh
    cases s with
    | negative =>
      have hpos : 0 < leastPlainPattern := by decide
      dsimp only [Sign.apply] at hlow
      omega
    | positive => exact ⟨p, hx, .inr (Int.ofNat_le.1 hlow), Int.ofNat_lt.1 hhigh⟩

/-- An unsigned integer is printed as the literal of its digits. -/
theorem isWord_integer_chars {v : Int64} (h : 0 ≤ v) :
    IsWord (Number.integer v).chars (.number (.integer v)) := by
  have hv : 0 ≤ v.toInt := Int64.le_iff_toInt_le.1 h
  have hchars : (Number.integer v).chars = natChars v.toInt.natAbs := if_neg (by omega)
  let l : Literal := ⟨natChars v.toInt.natAbs, none, natChars_ne_nil _,
    isDigit_of_mem_natChars _, nofun⟩
  have hnumber : l.number = .integer v := by
    rw [l.number_eq, if_pos rfl, Number.getD_ofInt?_eq_integer_iff, digitsValue_natChars]
    omega
  rw [hchars, ← hnumber]
  exact l.isWord

/-- A double that is written out is read back from its digits. -/
theorem isWord_double_chars {x : Float} (h : (Number.double x).IsUnsigned) :
    IsWord (Number.double x).chars (.number (.double x)) := by
  obtain ⟨p, hx, hlow, hhigh⟩ := exists_isDouble_of_isUnsigned h
  obtain ⟨q, ⟨l, hl, hpoint, rfl⟩, hnearest⟩ := writesValue_magnitudeChars hlow hhigh
  have hchars : (Number.double x).chars = l.chars := by
    have hfinite : p < infinityPattern := Nat.lt_trans hhigh (by decide)
    have hbits : x.toBits.toNat = p := hx.toNat_toBits.trans (Nat.zero_add p)
    have hmagnitude : p % Nat.pow 2 63 = p := Nat.mod_eq_of_lt (Nat.lt_trans hfinite (by decide))
    unfold Number.chars floatChars
    dsimp only
    rw [hbits, hmagnitude, if_neg (Nat.not_lt.2 hfinite.le), if_pos rfl, hl]
  have hnumber : l.number = .double x := by
    have hdouble := l.decimal_roundsTo.1
    rw [hnearest] at hdouble
    rw [l.number_eq, if_neg hpoint, hdouble.ext hx]
  rw [hchars, ← hnumber]
  exact l.isWord

theorem Token.IsUnsigned.isWord {t : Token} (h : t.IsUnsigned) : IsWord t.chars t := by
  cases t with
  | leftParen => exact isWord_leftParen
  | rightParen => exact isWord_rightParen
  | operator op => exact isWord_operator op
  | number n =>
    cases n with
    | integer v => exact isWord_integer_chars (h _ rfl)
    | double x => exact isWord_double_chars (h _ rfl)

/-! ## Printed tokens -/

theorem toList_intercalate_space (texts : List String) :
    (" ".intercalate texts).toList = spaced (texts.map String.toList) := by
  induction texts with
  | nil => rfl
  | cons text texts ih =>
    cases texts with
    | nil => simp [spaced]
    | cons next texts =>
      rw [String.intercalate_cons_cons, String.toList_append, String.toList_append, ih]
      simp [spaced]

theorem IsWord.ne_nil {word : List Char} {token : Token} (h : IsWord word token) : word ≠ [] := by
  rintro rfl
  cases h 0

/-- The spans of words with single spaces between them cover the words. -/
theorem charsIn_spansFrom {words : List (List Char)} (hne : ∀ word ∈ words, word ≠ [])
    (before : List Char) :
    (spansFrom (byteCount before) words).map (fun s => s.charsIn (before ++ spaced words)) =
      words := by
  induction words generalizing before with
  | nil => rfl
  | cons word words ih =>
    have hpos := byteCount_pos (hne word (List.mem_cons_self ..))
    have hcut : ∀ after, Cut 0 (before ++ (word ++ after)) (wordSpan (byteCount before) word)
        before word after := by
      intro after
      refine ⟨rfl, (Nat.zero_add _).symm, ?_⟩
      unfold wordSpan
      dsimp only
      omega
    cases words with
    | nil =>
      have hfirst := (hcut []).charsIn_eq
      rw [List.append_nil] at hfirst
      exact congrArg (fun chars => [chars]) hfirst
    | cons next words =>
      have hbytes : byteCount (before ++ (word ++ [' '])) =
          byteCount before + byteCount word + 1 := by
        rw [byteCount_append, byteCount_append, ← Nat.add_assoc]
        rfl
      have htext : before ++ spaced (word :: next :: words) =
          (before ++ (word ++ [' '])) ++ spaced (next :: words) := by
        simp [spaced]
      have hrest := ih (fun w hw => hne w (List.mem_cons_of_mem _ hw)) (before ++ (word ++ [' ']))
      rw [← htext, hbytes] at hrest
      exact congrArg₂ List.cons (hcut (' ' :: spaced (next :: words))).charsIn_eq hrest

/-- **Printed tokens are read back.**  Tokens that are printed without a sign and
without a power of ten, with single spaces between their texts, are read as the same
tokens, and each span covers the text of its token. -/
theorem tokenize_intercalate (tokens : List Token) (h : ∀ t ∈ tokens, t.IsUnsigned) :
    tokenize (" ".intercalate (tokens.map Token.text)) =
        List.zipWith Lexeme.mk tokens (spansFrom 0 (tokens.map Token.chars)) ∧
      (tokenize (" ".intercalate (tokens.map Token.text))).map
          (fun item => item.span.textIn (" ".intercalate (tokens.map Token.text))) =
        tokens.map Token.text := by
  have htext : (" ".intercalate (tokens.map Token.text)).toList =
      spaced (tokens.map Token.chars) := by
    rw [toList_intercalate_space, List.map_map]
    congr 2
    funext t
    exact String.toList_ofList
  have hread : tokenize (" ".intercalate (tokens.map Token.text)) =
      List.zipWith Lexeme.mk tokens (spansFrom 0 (tokens.map Token.chars)) := by
    unfold tokenize
    rw [htext, tokenizeChars_eq_lexemesFrom]
    lift tokens to List {t : Token // t.IsUnsigned} using h
    have hwords := lexemesFrom_spaced (fun t : {t : Token // t.IsUnsigned} => t.2.isWord) 0 tokens
    rw [List.map_map]
    exact hwords
  refine ⟨hread, ?_⟩
  have hne : ∀ word ∈ tokens.map Token.chars, word ≠ [] := by
    intro word hword
    obtain ⟨t, ht, rfl⟩ := List.mem_map.1 hword
    exact (h t ht).isWord.ne_nil
  have hcovered := charsIn_spansFrom hne []
  have hlength : (spansFrom 0 (tokens.map Token.chars)).length ≤ tokens.length := by
    rw [length_spansFrom, List.length_map]
  rw [hread, ← List.map_uncurry_zip_eq_zipWith, List.map_map]
  calc ((tokens.zip (spansFrom 0 (tokens.map Token.chars))).map _)
      = ((tokens.zip (spansFrom 0 (tokens.map Token.chars))).map Prod.snd).map
          (fun s => s.textIn (" ".intercalate (tokens.map Token.text))) := by
        rw [List.map_map]
        rfl
    _ = (spansFrom 0 (tokens.map Token.chars)).map
          (fun s => s.textIn (" ".intercalate (tokens.map Token.text))) := by
        rw [List.map_snd_zip hlength]
    _ = ((spansFrom 0 (tokens.map Token.chars)).map
          fun s => s.charsIn (spaced (tokens.map Token.chars))).map String.ofList := by
        unfold Span.textIn
        rw [htext, List.map_map]
        rfl
    _ = (tokens.map Token.chars).map String.ofList := congrArg (List.map String.ofList) hcovered
    _ = tokens.map Token.text := List.map_map

/-- The digit before the sign belongs to a double, the one behind it to an integer. -/
theorem tokenize_intercalate_difference :
    (∀ t ∈ [Token.number (.double 0.5), .operator .sub, .number (.integer 7)], t.IsUnsigned) ∧
      tokenize "0.5 - 7" = [⟨.number (.double 0.5), ⟨0, 2⟩⟩, ⟨.operator .sub, ⟨4, 4⟩⟩,
        ⟨.number (.integer 7), ⟨6, 6⟩⟩] := by
  have h : ∀ t ∈ [Token.number (.double 0.5), .operator .sub, .number (.integer 7)],
      t.IsUnsigned := by
    rw [List.forall_mem_cons, List.forall_mem_cons, List.forall_mem_singleton]
    refine ⟨?_, nofun, ?_⟩
    · rintro n ⟨⟩
      exact .inr (by decide +kernel)
    · rintro n ⟨⟩
      show (0 : Int64) ≤ 7
      decide
  have htext : " ".intercalate
      ([Token.number (.double 0.5), .operator .sub, .number (.integer 7)].map Token.text) =
        "0.5 - 7" := by
    decide +kernel
  have hspans : spansFrom 0
      ([Token.number (.double 0.5), .operator .sub, .number (.integer 7)].map Token.chars) =
        [⟨0, 2⟩, ⟨4, 4⟩, ⟨6, 6⟩] := by
    decide +kernel
  have hread := (tokenize_intercalate _ h).1
  rw [htext, hspans] at hread
  exact ⟨h, hread⟩

end Reckoner
