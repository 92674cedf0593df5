import Reckoner.Text.Offset
import Reckoner.Token.Stream

/-!
# All tokens of a text at once

A stream hands out its tokens one by one and keeps one back after a literal.
`lexemesFrom` gives the same tokens in a single pass over the characters, with
nothing kept back (`tokenizeChars_eq_lexemesFrom`); most of what holds of the
tokens of a text is proved of this pass.

A character that cannot be part of a literal separates what stands before it
from what comes after it (`lexemesFrom_append_separator`).
-/

namespace Reckoner

open TokenStream

/-- The lexemes of a text that starts at a byte offset, inside of what `mode`
says. -/
def lexemesFrom (mode : ReadingMode) (offset : Nat) : List Char → List Lexeme
  | [] =>
    match mode with
    | .between => []
    | .literal start read _ => [literalLexeme start offset read]
  | c :: rest =>
    match mode with
    | .between =>
      match symbolAt? c offset with
      | some lexeme => lexeme :: lexemesFrom .between (offset + c.utf8Size) rest
      | none =>
        if c.isDigit then lexemesFrom (.literal offset [c] false) (offset + c.utf8Size) rest
        else lexemesFrom .between (offset + c.utf8Size) rest
    | .literal start read pointSeen =>
      if c.isDigit then
        lexemesFrom (.literal start (c :: read) pointSeen) (offset + c.utf8Size) rest
      else if c = '.' ∧ pointSeen = false then
        lexemesFrom (.literal start (c :: read) true) (offset + c.utf8Size) rest
      else
        literalLexeme start offset read ::
          ((symbolAt? c offset).toList ++ lexemesFrom .between (offset + c.utf8Size) rest)

/-! ## Streams -/

/-- The lexemes a stream has still to hand out. -/
def TokenStream.ahead (s : TokenStream) : List Lexeme :=
  s.pending.toList ++ lexemesFrom s.mode s.offset s.rest

theorem lexemesFrom_eq_scan (mode : ReadingMode) (offset : Nat) (text : List Char) :
    lexemesFrom mode offset text =
      match scan mode offset text with
      | (none, _) => []
      | (some lexeme, s) => lexeme :: s.ahead := by
  fun_induction scan mode offset text <;>
    simp_all +zetaDelta [lexemesFrom, TokenStream.ahead]

/-- A stream hands out the first lexeme that is ahead. -/
theorem TokenStream.ahead_eq_next (s : TokenStream) :
    s.ahead =
      match s.next with
      | (none, _) => []
      | (some lexeme, s') => lexeme :: s'.ahead := by
  obtain ⟨rest, offset, mode, pending⟩ := s
  cases pending with
  | none => exact lexemesFrom_eq_scan mode offset rest
  | some lexeme => rfl

theorem TokenStream.ahead_of_next_eq_none {s : TokenStream} (h : s.next.1 = none) :
    s.ahead = [] := by
  have hnext : s.next = (none, s.next.2) := Prod.ext h rfl
  rw [ahead_eq_next, hnext]

theorem TokenStream.ahead_of_next_eq_some {s : TokenStream} {item : Lexeme}
    (h : s.next.1 = some item) : s.ahead = item :: s.next.2.ahead := by
  have hnext : s.next = (some item, s.next.2) := Prod.ext h rfl
  rw [ahead_eq_next, hnext]

/-- There are at most as many lexemes ahead as characters, and one more inside
of a literal. -/
theorem length_lexemesFrom_le (mode : ReadingMode) (offset : Nat) (text : List Char) :
    (lexemesFrom mode offset text).length ≤
      text.length + if mode = .between then 0 else 1 := by
  have symbol (c : Char) (offset : Nat) : (symbolAt? c offset).toList.length ≤ 1 := by
    cases symbolAt? c offset <;> simp
  fun_induction lexemesFrom mode offset text <;> simp_all <;> grind

theorem TokenStream.length_ahead_le (s : TokenStream) : s.ahead.length ≤ s.budget := by
  have hle := length_lexemesFrom_le s.mode s.offset s.rest
  rw [ahead, budget, List.length_append]
  cases hp : s.pending with
  | none => simpa using hle
  | some lexeme => simp; omega

theorem TokenStream.collect_eq (taken : List Lexeme) {limit : Nat} {s : TokenStream}
    (h : s.ahead.length ≤ limit) : collect taken limit s = taken.reverse ++ s.ahead := by
  induction limit generalizing taken s with
  | zero =>
    rw [collect, List.length_eq_zero_iff.1 (Nat.le_zero.1 h), List.append_nil]
  | succ limit ih =>
    have hahead := s.ahead_eq_next
    rw [collect]
    rcases hn : s.next with ⟨_ | lexeme, s'⟩
    · rw [hn] at hahead
      rw [hahead, List.append_nil]
    · rw [hn] at hahead
      rw [hahead] at h ⊢
      have hrest := ih (lexeme :: taken) (Nat.le_of_succ_le_succ h)
      rw [List.reverse_cons, List.append_assoc] at hrest
      exact hrest

/-- **A stream hands out all of the lexemes ahead.** -/
theorem TokenStream.toList_eq_ahead (s : TokenStream) : s.toList = s.ahead :=
  collect_eq [] s.length_ahead_le

/-- The tokens of a text are read in one pass. -/
theorem tokenizeChars_eq_lexemesFrom (text : List Char) :
    tokenizeChars text = lexemesFrom .between 0 text :=
  toList_eq_ahead (ofChars text)

/-! ## Separators -/

/-- What comes after a character outside of literals is read as a text of its
own. -/
theorem lexemesFrom_append_separator {c : Char} (hdigit : c.isDigit = false) (hpoint : c ≠ '.')
    (mode : ReadingMode) (offset : Nat) (a b : List Char) :
    lexemesFrom mode offset (a ++ c :: b) =
      lexemesFrom mode offset a ++ ((symbolAt? c (offset + byteCount a)).toList ++
        lexemesFrom .between (offset + byteCount a + c.utf8Size) b) := by
  fun_induction lexemesFrom mode offset a with
  | case1 offset => cases hs : symbolAt? c offset <;> simp [lexemesFrom, hs, hdigit]
  | case2 offset start read pointSeen => simp [lexemesFrom, hdigit, hpoint]
  | case3 offset d rest lexeme hs ih => simp [lexemesFrom, hs, ih, Nat.add_assoc]
  | case4 offset d rest hs hd ih => simp [lexemesFrom, hs, hd, ih, Nat.add_assoc]
  | case5 offset d rest hs hd ih => simp [lexemesFrom, hs, hd, ih, Nat.add_assoc]
  | case6 offset d rest start read pointSeen hd ih => simp [lexemesFrom, hd, ih, Nat.add_assoc]
  | case7 offset d rest start read pointSeen hd hp ih =>
    obtain ⟨rfl, rfl⟩ := hp
    simpa [lexemesFrom, Nat.add_assoc] using ih
  | case8 offset d rest start read pointSeen hd hp ih =>
    simp [lexemesFrom, hd, hp, ih, Nat.add_assoc]

end Reckoner
