import Reckoner.Proofs.Token.Literals
import Reckoner.Proofs.Token.Segmentation

/-!
# Literals cut out of the text

A scanner that is inside a literal has only to know where the literal started and
whether it has seen a point: when the literal is complete, its characters are cut out
of the text.  Each step of this can fail.  The cut needs both ends to be character
boundaries, the last byte is one before the end, and the characters have to be a
number.  `slicedTokens?` fails where one of the steps fails, and it never does: it
gives the tokens of the text for every text (`slicedTokens?_eq`).
-/

namespace Reckoner

open TokenStream Double

/-! ## Steps that can fail -/

/-- The characters from one byte offset up to another. -/
def slice? (input : List Char) (start stop : Nat) : Option (List Char) :=
  if start ≤ stop then
    (splitAtByte? start input).bind fun (_, rest) =>
      (splitAtByte? (stop - start) rest).map Prod.fst
  else none

/-- The offset before an offset. -/
def byteBefore? (offset : Nat) : Option Nat := if offset = 0 then none else some (offset - 1)

/-- The number that the characters of a literal are: an integer, if they have no point
and can be read as one, and otherwise the double they can be read as. -/
def readLiteral? (word : List Char) (pointSeen : Bool) : Option Number :=
  match if pointSeen then none else (readInt? word).bind Number.ofInt? with
  | some n => some n
  | none => (readFloat? word).map Number.double

/-- The lexeme of the literal between two byte offsets. -/
def sliceLexeme? (input : List Char) (start stop : Nat) (pointSeen : Bool) : Option Lexeme :=
  (slice? input start stop).bind fun word =>
    (readLiteral? word pointSeen).bind fun n =>
      (byteBefore? stop).map fun last => ⟨.number n, ⟨start, last⟩⟩

/-! ## The scanner -/

/-- What a scanner remembers. -/
inductive ScannerState where
  /-- It is between two tokens. -/
  | outside
  /-- It is inside a literal that started at a byte offset. -/
  | inside (start : Nat) (pointSeen : Bool)

/-- The lexemes from a byte offset of the input on; nothing if a step fails. -/
def slicedFrom? (input : List Char) :
    (state : ScannerState) → (offset : Nat) → (rest : List Char) → Option (List Lexeme)
  | .outside, _, [] => some []
  | .inside start pointSeen, offset, [] =>
    (sliceLexeme? input start offset pointSeen).map fun item => [item]
  | .outside, offset, c :: rest =>
    match symbolAt? c offset with
    | some item => (slicedFrom? input .outside (offset + c.utf8Size) rest).map (item :: ·)
    | none =>
      if c.isDigit then slicedFrom? input (.inside offset false) (offset + c.utf8Size) rest
      else slicedFrom? input .outside (offset + c.utf8Size) rest
  | .inside start pointSeen, offset, c :: rest =>
    if c.isDigit then slicedFrom? input (.inside start pointSeen) (offset + c.utf8Size) rest
    else if c = '.' ∧ pointSeen = false then
      slicedFrom? input (.inside start true) (offset + c.utf8Size) rest
    else
      (sliceLexeme? input start offset pointSeen).bind fun item =>
        (slicedFrom? input .outside (offset + c.utf8Size) rest).map fun items =>
          item :: ((symbolAt? c offset).toList ++ items)

/-- The tokens of a text, if no step fails. -/
def slicedTokens? (text : String) : Option (List Lexeme) :=
  slicedFrom? text.toList .outside 0 text.toList

/-! ## Reading the characters of a literal -/

namespace Literal

variable {l : Literal}

/-- A literal starts with a digit. -/
theorem chars_ne_cons (l : Literal) {c : Char} (hc : c.isDigit = false) (rest : List Char) :
    l.chars ≠ c :: rest := by
  obtain ⟨digit, digits, hl, hdigit⟩ := l.chars_eq_cons
  rw [hl]
  intro heq
  obtain ⟨rfl, -⟩ := List.cons.inj heq
  rw [hc] at hdigit
  exact absurd hdigit Bool.false_ne_true

theorem splitSign_chars (l : Literal) : splitSign l.chars = (false, l.chars) := by
  unfold splitSign
  split
  · next heq => exact absurd heq (l.chars_ne_cons rfl _)
  · next heq => exact absurd heq (l.chars_ne_cons rfl _)
  · rfl

theorem readDecimal?_chars (l : Literal) : readDecimal? l.chars = some l.decimal := by
  have hne : l.whole.isEmpty = false := List.isEmpty_eq_false_iff.2 l.whole_ne_nil
  unfold readDecimal? decimal places
  rw [takeWhile_chars, dropWhile_chars]
  cases hfraction : l.fraction with
  | none =>
    dsimp only [Option.elim_none, Option.getD_none]
    rw [hne]
    rfl
  | some fraction =>
    have hdigits := l.isDigit_of_mem_fraction fraction hfraction
    simp [hne, List.takeWhile_eq_self_iff.2 hdigits, List.dropWhile_eq_nil_iff.2 hdigits]

/-- The characters of a literal are neither a name of a double nor signed. -/
theorem readFloat?_chars (l : Literal) : readFloat? l.chars = some l.decimal.toFloat := by
  unfold readFloat? readMagnitude?
  rw [if_neg (l.chars_ne_cons rfl _), splitSign_chars]
  dsimp only
  rw [if_neg (l.chars_ne_cons rfl _), readDecimal?_chars]
  rfl

theorem readInt?_chars (h : l.fraction = none) :
    readInt? l.chars = some (digitsValue l.whole : Int) := by
  have hchars : l.chars = l.whole := by
    unfold chars
    rw [h]
  have hne : l.whole.isEmpty = false := List.isEmpty_eq_false_iff.2 l.whole_ne_nil
  have hall : l.whole.all Char.isDigit = true := List.all_eq_true.2 l.isDigit_of_mem_whole
  unfold readInt?
  rw [splitSign_chars, hchars]
  dsimp only
  rw [hne, hall, ofDigits_eq_digitsValue]
  rfl

/-- Cutting a literal out of the text and reading it gives the number it stands for. -/
theorem readLiteral?_chars (l : Literal) :
    readLiteral? l.chars l.fraction.isSome = some l.number := by
  unfold readLiteral?
  rw [number_eq, readFloat?_chars]
  cases hfraction : l.fraction with
  | none =>
    rw [if_pos rfl, readInt?_chars hfraction]
    dsimp only [Option.isSome_none, Option.bind_some]
    rw [if_neg Bool.false_ne_true]
    cases Number.ofInt? (digitsValue l.whole) <;> rfl
  | some fraction => rfl

/-! ## Literals that grow -/

theorem exists_append_digit (l : Literal) {c : Char} (hc : c.isDigit = true) :
    ∃ l' : Literal, l'.chars = l.chars ++ [c] ∧ l'.fraction.isSome = l.fraction.isSome := by
  have hsnoc : ∀ digits : List Char, (∀ d ∈ digits, d.isDigit = true) →
      ∀ d ∈ digits ++ [c], d.isDigit = true := by
    intro digits hdigits d hd
    rcases List.mem_append.1 hd with hd | hd
    · exact hdigits d hd
    · rwa [List.mem_singleton.1 hd]
  obtain ⟨whole, fraction, hne, hwhole, hfraction⟩ := l
  cases fraction with
  | none => exact ⟨⟨whole ++ [c], none, by simp, hsnoc whole hwhole, nofun⟩, rfl, rfl⟩
  | some digits =>
    refine ⟨⟨whole, some (digits ++ [c]), hne, hwhole, ?_⟩, ?_, rfl⟩
    · rintro _ ⟨⟩
      exact hsnoc digits (hfraction digits rfl)
    · simp [chars]

theorem exists_append_point (l : Literal) (h : l.fraction.isSome = false) :
    ∃ l' : Literal, l'.chars = l.chars ++ ['.'] ∧ l'.fraction.isSome = true := by
  obtain ⟨whole, fraction, hne, hwhole, hfraction⟩ := l
  cases fraction with
  | none =>
    refine ⟨⟨whole, some [], hne, hwhole, ?_⟩, rfl, rfl⟩
    rintro _ ⟨⟩
    exact nofun
  | some digits => cases h

theorem exists_of_isDigit {c : Char} (hc : c.isDigit = true) :
    ∃ l : Literal, l.chars = [c] ∧ l.fraction.isSome = false :=
  ⟨⟨[c], none, List.cons_ne_nil c [], by simpa using hc, nofun⟩, rfl, rfl⟩

end Literal

/-! ## No step fails -/

/-- Between two characters of a text, the text can be cut. -/
theorem slice?_append (before word after : List Char) :
    slice? (before ++ (word ++ after)) (byteCount before) (byteCount before + byteCount word) =
      some word := by
  unfold slice?
  rw [if_pos (Nat.le_add_right ..), splitAtByte?_append, Nat.add_sub_cancel_left]
  dsimp only [Option.bind_some]
  rw [splitAtByte?_append]
  rfl

theorem sliceLexeme?_append (before after : List Char) (l : Literal) :
    sliceLexeme? (before ++ (l.chars ++ after)) (byteCount before)
        (byteCount before + byteCount l.chars) l.fraction.isSome =
      some (literalLexeme (byteCount before) (byteCount before + byteCount l.chars)
        l.chars.reverse) := by
  obtain ⟨c, rest, hl, -⟩ := l.chars_eq_cons
  have hpos : 0 < byteCount l.chars := by
    rw [hl]
    exact byteCount_pos (List.cons_ne_nil c rest)
  have hlast : byteBefore? (byteCount before + byteCount l.chars) =
      some (byteCount before + byteCount l.chars - 1) := if_neg (by omega)
  unfold sliceLexeme?
  rw [slice?_append, Option.bind_some, l.readLiteral?_chars, Option.bind_some, hlast]
  unfold literalLexeme
  rw [List.reverse_reverse]
  rfl

/-- What a scanner remembers fits what a reader of the input is in the middle of:
inside a literal, the text from its start on is a literal. -/
inductive Remembers (input : List Char) :
    ScannerState → ReadingMode → (offset : Nat) → (rest : List Char) → Prop
  | outside {before rest : List Char} (htext : input = before ++ rest) :
      Remembers input .outside .between (byteCount before) rest
  | inside {before rest : List Char} (l : Literal) (htext : input = before ++ (l.chars ++ rest)) :
      Remembers input (.inside (byteCount before) l.fraction.isSome)
        (.literal (byteCount before) l.chars.reverse l.fraction.isSome)
        (byteCount before + byteCount l.chars) rest

section

variable {input rest read : List Char} {state : ScannerState} {mode : ReadingMode}
  {start offset : Nat} {pointSeen : Bool} {c : Char}

/-- Behind any character, a text can go on between two tokens. -/
theorem Remembers.next (h : Remembers input state mode offset (c :: rest)) :
    Remembers input .outside .between (offset + c.utf8Size) rest := by
  have hnext : ∀ before : List Char, input = before ++ c :: rest →
      Remembers input .outside .between (byteCount before + c.utf8Size) rest := by
    intro before htext
    have hbytes : byteCount (before ++ [c]) = byteCount before + c.utf8Size := byteCount_append ..
    rw [← hbytes]
    exact .outside (by rw [htext, List.append_assoc]; rfl)
  cases h with
  | outside htext => exact hnext _ htext
  | inside l htext =>
    rw [← List.append_assoc] at htext
    rw [← byteCount_append]
    exact hnext _ htext

theorem Remembers.inside_of_chars {before : List Char} (l : Literal)
    (htext : input = before ++ (l.chars ++ rest)) (hbytes : byteCount l.chars + start = offset)
    (hread : l.chars.reverse = read) (hpoint : l.fraction.isSome = pointSeen)
    (hstart : byteCount before = start) :
    Remembers input (.inside start pointSeen) (.literal start read pointSeen) offset rest := by
  subst hstart hread hpoint hbytes
  rw [Nat.add_comm]
  exact .inside l htext

theorem Remembers.enter (h : Remembers input .outside .between offset (c :: rest))
    (hc : c.isDigit = true) :
    Remembers input (.inside offset false) (.literal offset [c] false) (offset + c.utf8Size)
      rest := by
  cases h with
  | outside htext =>
    obtain ⟨l, hl, hpoint⟩ := Literal.exists_of_isDigit hc
    refine .inside_of_chars l (by rw [htext, hl]; rfl) ?_ (by rw [hl]; rfl) hpoint rfl
    rw [hl, byteCount_cons, byteCount_nil]
    omega

theorem Remembers.grow {pointSeen' : Bool}
    (h : Remembers input (.inside start pointSeen) (.literal start read pointSeen) offset
      (c :: rest))
    (hgrow : ∀ l : Literal, l.fraction.isSome = pointSeen →
      ∃ l' : Literal, l'.chars = l.chars ++ [c] ∧ l'.fraction.isSome = pointSeen') :
    Remembers input (.inside start pointSeen') (.literal start (c :: read) pointSeen')
      (offset + c.utf8Size) rest := by
  cases h with
  | inside l htext =>
    obtain ⟨l', hl', hpoint⟩ := hgrow l rfl
    refine .inside_of_chars l' ?_ ?_ ?_ hpoint rfl
    · rw [htext, hl', List.append_assoc]
      rfl
    · rw [hl', byteCount_append, byteCount_cons, byteCount_nil]
      omega
    · rw [hl', List.reverse_append]
      rfl

/-- The scanner reads what is read in a single pass, and does not fail. -/
theorem slicedFrom?_eq (h : Remembers input state mode offset rest) :
    slicedFrom? input state offset rest = some (lexemesFrom mode offset rest) := by
  induction rest generalizing state mode offset with
  | nil =>
    cases h with
    | outside => rfl
    | inside l htext =>
      subst htext
      unfold slicedFrom?
      rw [sliceLexeme?_append]
      rfl
  | cons c rest ih =>
    have hnext := ih h.next
    have hremembers := h
    cases h with
    | outside htext =>
      unfold slicedFrom? lexemesFrom
      dsimp only
      cases symbolAt? c _ with
      | some item =>
        dsimp only
        rw [hnext]
        rfl
      | none =>
        dsimp only
        by_cases hc : c.isDigit = true
        · rw [if_pos hc, if_pos hc, ih (hremembers.enter hc)]
        · rw [if_neg hc, if_neg hc, hnext]
    | inside l htext =>
      unfold slicedFrom? lexemesFrom
      dsimp only
      by_cases hc : c.isDigit = true
      · rw [if_pos hc, if_pos hc]
        refine ih (hremembers.grow fun l' hl' => ?_)
        rw [← hl']
        exact l'.exists_append_digit hc
      · rw [if_neg hc, if_neg hc]
        by_cases hpoint : c = '.' ∧ l.fraction.isSome = false
        · obtain ⟨rfl, hnone⟩ := hpoint
          rw [if_pos ⟨rfl, hnone⟩, if_pos ⟨rfl, hnone⟩]
          exact ih (hremembers.grow fun l' hl' => l'.exists_append_point (hl'.trans hnone))
        · rw [if_neg hpoint, if_neg hpoint, hnext, htext, sliceLexeme?_append]
          rfl

end

/-- **No step of cutting literals out of the text fails**, whatever the text is. -/
theorem slicedTokens?_eq (text : String) : slicedTokens? text = some (tokenize text) := by
  unfold slicedTokens? tokenize
  rw [tokenizeChars_eq_lexemesFrom]
  exact slicedFrom?_eq (.outside (List.nil_append text.toList).symm)

/-! ## The numbers in a text -/

/-- A literal that cannot be an integer is a double, neither NaN nor negative. -/
theorem Literal.number_double {l : Literal} (h : ¬l.IsInteger) :
    ∃ x, l.number = .double x ∧ RoundsTo l.value x ∧ x.isNaN = false ∧ 0 ≤ x ∧
      x.toBits < 0x8000000000000000 := by
  obtain ⟨hdouble, hrounds⟩ := l.decimal_roundsTo
  exact ⟨l.decimal.toFloat, l.number_of_not_isInteger h, hrounds, hdouble.isNaN_eq,
    hdouble.nonneg, hdouble.toBits_lt⟩

/-- **Numbers are read with the right kind and value, and reading them never fails.**
The characters under the span of a number are a literal.  The number is an integer
exactly if the literal has no point and 64 bits hold its value, and it is that value;
otherwise it is the double that the value is correctly rounded to, which is neither
NaN nor negative. -/
theorem tokenize_literals (text : String) :
    slicedTokens? text = some (tokenize text) ∧
    ∀ item ∈ tokenize text, ∀ n, item.token = .number n →
      ∃ l : Literal, item.span.charsIn text.toList = l.chars ∧
        (∀ v : Int64, n = .integer v ↔ l.IsInteger ∧ l.value = v.toInt) ∧
        (¬l.IsInteger → ∃ x, n = .double x ∧ RoundsTo l.value x ∧ x.isNaN = false ∧
          0 ≤ x ∧ x.toBits < 0x8000000000000000) := by
  refine ⟨slicedTokens?_eq text, fun item hitem n htoken => ?_⟩
  have hread : tokenize text = lexemesFrom .between 0 text.toList :=
    tokenizeChars_eq_lexemesFrom text.toList
  rw [hread] at hitem
  obtain ⟨before, word, after, hcut, hspelled⟩ := exists_cut_of_mem_lexemesFrom _ _ item hitem
  rw [htoken] at hspelled
  rw [hcut.charsIn_eq]
  cases hspelled with
  | literal l => exact ⟨l, rfl, l.number_eq_integer_iff, l.number_double⟩

/-- The least number that 64 bits do not hold, after leading zeros. -/
example : (tokenize "+009223372036854775807 09223372036854775808").map Lexeme.token =
    [.operator .add, .number (.integer Int64.maxValue),
      .number (.double (.ofBits 0x43E0000000000000))] := by
  decide +kernel

end Reckoner
