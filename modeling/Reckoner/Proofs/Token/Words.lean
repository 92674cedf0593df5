import Reckoner.Proofs.Token.Whole

/-!
# Texts made of words

A word is a text that reads as a single token: a parenthesis, an operator or a
literal.  Words joined by single spaces read as one token each, at the bytes
where the word stands (`tokenizeChars_spaced`).
-/

namespace Reckoner

open TokenStream

/-! ## Literals -/

/-- An unsigned literal: digits that may be followed by a point and further
digits. -/
structure Literal where
  whole : List Char
  fraction : Option (List Char)
  whole_ne_nil : whole ≠ []
  isDigit_of_mem_whole : ∀ c ∈ whole, c.isDigit = true
  isDigit_of_mem_fraction : ∀ digits ∈ fraction, ∀ c ∈ digits, c.isDigit = true

namespace Literal

/-- The characters of a literal. -/
def chars (l : Literal) : List Char :=
  match l.fraction with
  | none => l.whole
  | some digits => l.whole ++ '.' :: digits

/-- The number a literal stands for. -/
def number (l : Literal) : Number := .ofLiteral l.chars

end Literal

/-! ## Words -/

/-- Words with a single space between each two of them. -/
def spaced : List (List Char) → List Char
  | [] => []
  | [word] => word
  | word :: words => word ++ ' ' :: spaced words

/-- The span of a word at a byte offset. -/
def wordSpan (offset : Nat) (word : List Char) : Span := ⟨offset, offset + byteCount word - 1⟩

/-- The spans of words with single spaces between them. -/
def spansFrom (offset : Nat) : List (List Char) → List Span
  | [] => []
  | word :: words => wordSpan offset word :: spansFrom (offset + byteCount word + 1) words

/-- The word reads as the token and nothing else, wherever it stands. -/
def IsWord (word : List Char) (token : Token) : Prop :=
  ∀ offset, lexemesFrom .between offset word = [⟨token, wordSpan offset word⟩]

@[simp] theorem length_spansFrom (offset : Nat) (words : List (List Char)) :
    (spansFrom offset words).length = words.length := by
  induction words generalizing offset with
  | nil => rfl
  | cons word words ih => rw [spansFrom, List.length_cons, ih, List.length_cons]

/-- **Words joined by spaces read as one token each.** -/
theorem lexemesFrom_spaced {α : Type} {word : α → List Char} {token : α → Token}
    (h : ∀ a, IsWord (word a) (token a)) (offset : Nat) (as : List α) :
    lexemesFrom .between offset (spaced (as.map word)) =
      List.zipWith Lexeme.mk (as.map token) (spansFrom offset (as.map word)) := by
  induction as generalizing offset with
  | nil => rfl
  | cons a as ih =>
    cases as with
    | nil => exact h a offset
    | cons b as =>
      have hsep := lexemesFrom_append_separator (c := ' ') (by decide) (by decide) .between offset
        (word a) (spaced ((b :: as).map word))
      rw [h a offset, ih] at hsep
      exact hsep

/-! ## Literals and symbols are words -/

/-- The characters that are tokens of their own. -/
def symbols : List Char := ['+', '-', '*', '/', '(', ')']

theorem symbolAt?_of_not_mem_symbols {c : Char} (h : c ∉ symbols) (offset : Nat) :
    symbolAt? c offset = none := by
  have hne : ∀ d ∈ symbols, c ≠ d := by
    rintro d hd rfl
    exact h hd
  have hop : Operator.ofChar? c = none := by
    rw [Operator.ofChar?.eq_def]
    split <;> first | rfl | exact absurd rfl (hne _ (by decide))
  rw [symbolAt?, Token.ofChar?.eq_def]
  split
  · exact absurd rfl (hne _ (by decide))
  · exact absurd rfl (hne _ (by decide))
  · rw [hop]
    rfl

theorem isDigit_of_mem_symbols : ∀ c ∈ symbols, c.isDigit = false := by
  simp only [symbols, List.forall_mem_cons]
  exact ⟨rfl, rfl, rfl, rfl, rfl, rfl, nofun⟩

theorem symbolAt?_of_isDigit {c : Char} (h : c.isDigit = true) (offset : Nat) :
    symbolAt? c offset = none := by
  refine symbolAt?_of_not_mem_symbols (fun hc => ?_) offset
  rw [isDigit_of_mem_symbols c hc] at h
  cases h

theorem lexemesFrom_digits {digits : List Char} (h : ∀ c ∈ digits, c.isDigit = true)
    (start offset : Nat) (read rest : List Char) (pointSeen : Bool) :
    lexemesFrom (.literal start read pointSeen) offset (digits ++ rest) =
      lexemesFrom (.literal start (digits.reverse ++ read) pointSeen)
        (offset + byteCount digits) rest := by
  induction digits generalizing offset read with
  | nil => rfl
  | cons c digits ih =>
    obtain ⟨hc, hdigits⟩ := List.forall_mem_cons.1 h
    rw [List.cons_append, lexemesFrom, if_pos hc, ih hdigits, byteCount_cons, List.reverse_cons,
      List.append_assoc, Nat.add_assoc]
    rfl

section

variable {whole : List Char} (hne : whole ≠ []) (h : ∀ c ∈ whole, c.isDigit = true)

include hne h

/-- The digits before the point of a literal, whatever follows them. -/
theorem lexemesFrom_whole (offset : Nat) (rest : List Char) :
    lexemesFrom .between offset (whole ++ rest) =
      lexemesFrom (.literal offset whole.reverse false) (offset + byteCount whole) rest := by
  obtain ⟨c, digits, rfl⟩ := List.exists_cons_of_ne_nil hne
  obtain ⟨hc, hdigits⟩ := List.forall_mem_cons.1 h
  rw [List.cons_append, lexemesFrom, symbolAt?_of_isDigit hc]
  simp only [hc, if_true]
  rw [lexemesFrom_digits hdigits, List.reverse_cons, byteCount_cons, Nat.add_assoc]

theorem isWord_integer : IsWord whole (.number (.ofLiteral whole)) := by
  intro offset
  have hread := lexemesFrom_whole hne h offset []
  rw [List.append_nil] at hread
  rw [hread, lexemesFrom, literalLexeme, List.reverse_reverse]
  rfl

theorem isWord_decimal {places : List Char} (hplaces : ∀ c ∈ places, c.isDigit = true) :
    IsWord (whole ++ '.' :: places) (.number (.ofLiteral (whole ++ '.' :: places))) := by
  intro offset
  have hread := lexemesFrom_digits hplaces offset (offset + byteCount whole + 1)
    ('.' :: whole.reverse) [] true
  rw [List.append_nil] at hread
  have hpoint : lexemesFrom (.literal offset whole.reverse false) (offset + byteCount whole)
      ('.' :: places) = lexemesFrom (.literal offset ('.' :: whole.reverse) true)
        (offset + byteCount whole + 1) places := rfl
  have hbytes : byteCount (whole ++ '.' :: places) = byteCount whole + 1 + byteCount places := by
    rw [byteCount_append, byteCount_cons, Nat.add_assoc]
    rfl
  rw [lexemesFrom_whole hne h, hpoint, hread, lexemesFrom, literalLexeme, wordSpan, hbytes,
    List.reverse_append, List.reverse_cons, List.reverse_reverse, List.reverse_reverse,
    List.append_assoc, ← Nat.add_assoc, ← Nat.add_assoc]
  rfl

end

/-- A literal reads as the number it stands for. -/
theorem Literal.isWord (l : Literal) : IsWord l.chars (.number l.number) := by
  obtain ⟨whole, fraction, hne, hwhole, hfraction⟩ := l
  cases fraction with
  | none => exact isWord_integer hne hwhole
  | some places => exact isWord_decimal hne hwhole (hfraction places rfl)

theorem isWord_operator (op : Operator) : IsWord [op.symbol] (.operator op) := by
  cases op <;> exact fun _ => rfl

theorem isWord_leftParen : IsWord ['('] .leftParen := fun _ => rfl

theorem isWord_rightParen : IsWord [')'] .rightParen := fun _ => rfl

end Reckoner
