import Reckoner.Proofs.Token.Insertion

/-!
# Texts joined at a character

A character that is neither a digit nor a point belongs to no literal.  Whatever a
text is in the middle of when such a character comes, the text ends there as it
would end without anything behind it, and what comes after the character starts
anew.  So a text with the character in it has the tokens of the part before, the
token of the character if it has one, and the tokens of the part behind, moved on
by the bytes before them (`tokenize_append_separator`).
-/

namespace Reckoner

open TokenStream

/-- The span `bytes` bytes further on. -/
def Span.shift (bytes : Nat) (s : Span) : Span := ⟨s.first + bytes, s.last + bytes⟩

/-- The bytes of a list of characters are those of its string. -/
theorem byteCount_toList (text : String) : byteCount text.toList = text.utf8ByteSize := by
  have h : ∀ chars : List Char, byteCount chars = (String.ofList chars).utf8ByteSize := by
    intro chars
    induction chars with
    | nil => rfl
    | cons c chars ih =>
      rw [byteCount_cons, ih, String.ofList_cons, String.utf8ByteSize_append,
        String.utf8ByteSize_singleton]
  rw [h, String.ofList_toList]

/-- What is read behind the separator is read as a text of its own, further on. -/
theorem lexemesFrom_join {c : Char} (hdigit : c.isDigit = false) (hpoint : c ≠ '.')
    (a b : List Char) :
    lexemesFrom .between 0 (a ++ c :: b) =
      lexemesFrom .between 0 a ++ ((symbolAt? c (byteCount a)).toList ++
        (lexemesFrom .between 0 b).map
          (Lexeme.relocate (.shift (byteCount a + c.utf8Size)))) := by
  rw [lexemesFrom_append_separator hdigit hpoint, Nat.zero_add]
  have hbehind := lexemesFrom_shift 0 (byteCount a + c.utf8Size) b
  rw [Nat.zero_add] at hbehind
  rw [hbehind]
  rfl

/-- **Tokens do not reach across a separator.**  For a character that is neither a
digit nor a point, the tokens of a text around it are those of the part before it,
then its own one if it is a symbol, then those of the part behind it. -/
theorem tokenize_append_separator (a b : String) (c : Char) (hdigit : c.isDigit = false)
    (hpoint : c ≠ '.') :
    ∃ own : List Lexeme,
      tokenize (a ++ String.singleton c ++ b) = tokenize a ++ (own ++
        (tokenize b).map (Lexeme.relocate (.shift (a.utf8ByteSize + c.utf8Size)))) ∧
      (c ∈ symbols → ∃ token : Token, token.SpelledBy [c] ∧
        own = [⟨token, .single a.utf8ByteSize⟩]) ∧
      (c ∉ symbols → own = []) := by
  have htext : (a ++ String.singleton c ++ b).toList = a.toList ++ c :: b.toList := by simp
  refine ⟨(symbolAt? c a.utf8ByteSize).toList, ?_, ?_, ?_⟩
  · unfold tokenize
    rw [htext, tokenizeChars_eq_lexemesFrom, tokenizeChars_eq_lexemesFrom,
      tokenizeChars_eq_lexemesFrom, lexemesFrom_join hdigit hpoint, byteCount_toList]
  · intro hsymbol
    obtain ⟨token, hspelled, -, hread⟩ := symbolAt?_of_mem_symbols hsymbol
    exact ⟨token, hspelled, by rw [hread]; rfl⟩
  · intro hsymbol
    rw [symbolAt?_of_not_mem_symbols hsymbol]
    rfl

/-- The second point has been dropped when the sign comes. -/
theorem tokenize_append_separator_minus :
    '-'.isDigit = false ∧ '-' ≠ '.' ∧ ∃ own : List Lexeme,
      tokenize ("é1.5." ++ String.singleton '-' ++ "2") = tokenize "é1.5." ++ (own ++
        (tokenize "2").map (Lexeme.relocate (.shift 7))) ∧
      ('-' ∈ symbols → ∃ token : Token, token.SpelledBy ['-'] ∧ own = [⟨token, .single 6⟩]) ∧
      ('-' ∉ symbols → own = []) :=
  ⟨rfl, by decide, tokenize_append_separator "é1.5." "2" '-' rfl (by decide)⟩

end Reckoner
