import Reckoner.Proofs.Token.Segmentation

/-!
# Texts with a character inserted

A character that cannot be part of a token may be inserted anywhere but inside of
a token: the tokens stay the same, and those at or after the place move on by the
bytes of the character (`tokenize_insert`).

The place need not be one where the reading pauses.  It may lie behind a literal
that has been complete only since the character after it was seen, between two
points of which the second ended the literal, or behind a character that was
passed over.  What makes it a place like any other is that a text read in two
parts has the tokens of the whole unless one of them lies across the cut
(`lexemesFrom_append`).
-/

namespace Reckoner

/-- The span after `bytes` bytes have been inserted at `place`. -/
def Span.shiftFrom (place bytes : Nat) (s : Span) : Span :=
  if place ≤ s.first then ⟨s.first + bytes, s.last + bytes⟩ else s

/-- The lexeme with another span in the place of its own. -/
def Lexeme.relocate (f : Span → Span) (item : Lexeme) : Lexeme := ⟨item.token, f item.span⟩

/-- A place that has bytes of the span on both of its sides. -/
def Span.Straddles (s : Span) (place : Nat) : Prop := s.first < place ∧ place ≤ s.last

instance (s : Span) (place : Nat) : Decidable (s.Straddles place) :=
  inferInstanceAs (Decidable (_ ∧ _))

/-! ## Words and their tokens -/

theorem Token.SpelledBy.isWord {token : Token} {word : List Char} (h : token.SpelledBy word) :
    IsWord word token := by
  cases h with
  | leftParen => exact isWord_leftParen
  | rightParen => exact isWord_rightParen
  | operator op => exact isWord_operator op
  | literal l => exact l.isWord

/-- A word spells one token only. -/
theorem Token.SpelledBy.unique {s t : Token} {word : List Char} (hs : s.SpelledBy word)
    (ht : t.SpelledBy word) : s = t := by
  have hread := (hs.isWord 0).symm.trans (ht.isWord 0)
  exact congrArg Lexeme.token (List.cons.inj hread).1

/-- A word is a word before each beginning of what follows it. -/
theorem IsWordBefore.of_append {word after more : List Char}
    (h : IsWordBefore word (after ++ more)) : IsWordBefore word after := by
  obtain hsymbol | ⟨l, rfl, hl⟩ := h
  · exact .inl hsymbol
  · refine .inr ⟨l, rfl, fun c hc => hl c ?_⟩
    cases after with
    | nil => cases hc
    | cons d after => exact hc

/-! ## Moved and divided texts -/

variable {offset bytes : Nat} {text before after : List Char} {item : Lexeme}

/-- Tokens stand inside of their text. -/
theorem first_of_mem_lexemesFrom (h : item ∈ lexemesFrom .between offset text) :
    offset ≤ item.span.first ∧ item.span.first < offset + byteCount text := by
  have hseg := (segmentation_iff offset text _).2 rfl
  obtain ⟨front, word, back, hcut, hword⟩ := hseg.cut item.span (List.mem_map_of_mem h)
  have hpos := hword.byteCount_pos
  have hfirst := hcut.first_eq
  have hbytes := congrArg byteCount hcut.text_eq
  rw [byteCount_append, byteCount_append] at hbytes
  omega

/-- The tokens of a text that starts elsewhere stand elsewhere. -/
theorem lexemesFrom_shift (offset bytes : Nat) (text : List Char) :
    lexemesFrom .between (offset + bytes) text =
      (lexemesFrom .between offset text).map
        (Lexeme.relocate fun s => ⟨s.first + bytes, s.last + bytes⟩) := by
  induction offset, text using front_induction with
  | nil offset => rfl
  | skip offset c rest hc ih =>
    rw [lexemesFrom_skip hc, lexemesFrom_skip hc, Nat.add_right_comm, ih]
  | word offset word after hword ih =>
    obtain ⟨token, hspelled, hread⟩ := lexemesFrom_word hword offset
    obtain ⟨token', hspelled', hread'⟩ := lexemesFrom_word hword (offset + bytes)
    obtain rfl := hspelled.unique hspelled'
    have hpos := hword.byteCount_pos
    have hspan : wordSpan (offset + bytes) word =
        ⟨(wordSpan offset word).first + bytes, (wordSpan offset word).last + bytes⟩ := by
      simp only [wordSpan, Span.mk.injEq, true_and]
      omega
    rw [hread, hread', List.map_cons, Lexeme.relocate, hspan, Nat.add_right_comm, ih]

/-- **A text may be read in two parts**, if no token lies across the cut. -/
theorem lexemesFrom_append (htext : text = before ++ after)
    (h : ∀ item ∈ lexemesFrom .between offset text,
      ¬item.span.Straddles (offset + byteCount before)) :
    lexemesFrom .between offset text = lexemesFrom .between offset before ++
      lexemesFrom .between (offset + byteCount before) after := by
  induction offset, text using front_induction generalizing before with
  | nil offset =>
    obtain ⟨rfl, rfl⟩ := List.append_eq_nil_iff.1 htext.symm
    rfl
  | skip offset c rest hc ih =>
    cases before with
    | nil =>
      rw [htext]
      rfl
    | cons d before =>
      obtain ⟨rfl, hrest⟩ := List.cons.inj htext
      rw [lexemesFrom_skip hc, byteCount_cons, ← Nat.add_assoc] at h
      rw [lexemesFrom_skip hc, lexemesFrom_skip hc, byteCount_cons, ← Nat.add_assoc, ih hrest h]
  | word offset word rest hword ih =>
    by_cases hnil : before = []
    · subst hnil
      rw [htext]
      rfl
    obtain ⟨token, hspelled, hread⟩ := lexemesFrom_word hword offset
    rw [hread, List.forall_mem_cons] at h
    -- the first word ends before the cut, so it is the same word in the first part
    have hfront := byteCount_pos hnil
    have hends : byteCount word ≤ byteCount before := by
      have hout := h.1
      simp only [Span.Straddles, wordSpan] at hout
      omega
    obtain ⟨before', rfl, rfl⟩ := exists_append_of_byteCount_le htext hends
    obtain ⟨token', hspelled', hread'⟩ := lexemesFrom_word hword.of_append offset
    obtain rfl := hspelled.unique hspelled'
    rw [byteCount_append, ← Nat.add_assoc] at h
    rw [hread, hread', byteCount_append, ← Nat.add_assoc, ih rfl h.2, List.cons_append]

/-! ## Inserting a character -/

/-- **Outside of tokens a character without meaning may be inserted.** -/
theorem lexemesFrom_insert {c : Char} (hc : ¬IsSignificant c) (hpoint : c ≠ '.')
    (h : ∀ item ∈ lexemesFrom .between 0 (before ++ after),
      ¬item.span.Straddles (byteCount before)) :
    lexemesFrom .between 0 (before ++ c :: after) =
      (lexemesFrom .between 0 (before ++ after)).map
        (Lexeme.relocate (.shiftFrom (byteCount before) c.utf8Size)) := by
  obtain ⟨hdigit, hsymbol⟩ := not_or.1 hc
  have hcut := lexemesFrom_append rfl (by rwa [Nat.zero_add])
  have hbefore : (lexemesFrom .between 0 before).map
      (Lexeme.relocate (.shiftFrom (byteCount before) c.utf8Size)) =
        lexemesFrom .between 0 before := by
    refine (List.map_congr_left fun item hitem => ?_).trans (List.map_id _)
    have hlt := (first_of_mem_lexemesFrom hitem).2
    rw [Lexeme.relocate, Span.shiftFrom, if_neg (by omega)]
    rfl
  have hafter : (lexemesFrom .between (0 + byteCount before) after).map
      (Lexeme.relocate (.shiftFrom (byteCount before) c.utf8Size)) =
        lexemesFrom .between (0 + byteCount before + c.utf8Size) after := by
    rw [lexemesFrom_shift (0 + byteCount before)]
    refine List.map_congr_left fun item hitem => ?_
    have hle := (first_of_mem_lexemesFrom hitem).1
    rw [Lexeme.relocate, Span.shiftFrom, if_pos (by omega)]
    rfl
  rw [hcut, List.map_append, hbefore, hafter,
    lexemesFrom_append_separator (by simpa using hdigit) hpoint,
    symbolAt?_of_not_mem_symbols hsymbol]
  rfl

/-- The tokens of a text into which a character has been inserted. -/
theorem tokenize_insert {before after : String} {c : Char} (hc : ¬IsSignificant c)
    (hpoint : c ≠ '.') (h : ∀ item ∈ tokenize (before ++ after),
      ¬item.span.Straddles (byteCount before.toList)) :
    tokenize (before ++ String.singleton c ++ after) = (tokenize (before ++ after)).map
      (Lexeme.relocate (.shiftFrom (byteCount before.toList) c.utf8Size)) := by
  have htext : (before ++ String.singleton c ++ after).toList =
      before.toList ++ c :: after.toList := by simp
  rw [tokenize, tokenizeChars_eq_lexemesFrom, String.toList_append] at h
  rw [tokenize, tokenize, tokenizeChars_eq_lexemesFrom, tokenizeChars_eq_lexemesFrom, htext,
    String.toList_append, lexemesFrom_insert hc hpoint h]

end Reckoner
