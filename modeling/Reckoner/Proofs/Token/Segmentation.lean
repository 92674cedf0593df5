import Mathlib.Data.List.Pairwise
import Reckoner.Proofs.Token.Words
import Reckoner.Span

/-!
# Texts cut into words

Which parts of a text are tokens can be said without reading it from left to
right: the spans follow each other, each of them covers a symbol or a literal
that cannot be continued, and no digit and no symbol is left out.  A list of
spans with these properties is a `Segmentation`.

Every text has exactly one segmentation, the spans of its tokens
(`segmentation_iff`, `tokenize_segmentation`).  The proof takes words and
characters without meaning off the front of the text, on both sides of the
equivalence.
-/

namespace Reckoner

open TokenStream

/-! ## Words in a text -/

/-- Digits and symbols; no token is without them. -/
def IsSignificant (c : Char) : Prop := c.isDigit = true ∨ c ∈ symbols

instance (c : Char) : Decidable (IsSignificant c) := inferInstanceAs (Decidable (_ ∨ _))

/-- The ways in which a token is spelled. -/
inductive Token.SpelledBy : Token → List Char → Prop
  | leftParen : SpelledBy .leftParen ['(']
  | rightParen : SpelledBy .rightParen [')']
  | operator (op : Operator) : SpelledBy (.operator op) [op.symbol]
  | literal (l : Literal) : SpelledBy (.number l.number) l.chars

/-- A literal with `after` behind it cannot be continued: what follows is not a
digit, and a point only if the literal has one already. -/
def Literal.EndsBefore (l : Literal) (after : List Char) : Prop :=
  ∀ c ∈ after.head?, c.isDigit = false ∧ (c = '.' → '.' ∈ l.chars)

/-- A symbol, or a literal that cannot be continued. -/
def IsWordBefore (word after : List Char) : Prop :=
  (∃ c ∈ symbols, word = [c]) ∨ ∃ l : Literal, word = l.chars ∧ l.EndsBefore after

/-- A span covers `word` in a text whose first byte has the number `offset`. -/
structure Cut (offset : Nat) (text : List Char) (s : Span) (before word after : List Char) :
    Prop where
  text_eq : text = before ++ (word ++ after)
  first_eq : s.first = offset + byteCount before
  last_eq : s.last + 1 = s.first + byteCount word

/-- A choice of spans in a text whose first byte has the number `offset`. -/
structure Segmentation (offset : Nat) (text : List Char) (spans : List Span) : Prop where
  /-- Each span ends before the next one starts. -/
  ordered : spans.Pairwise fun s t => s.last < t.first
  /-- Each span covers a word, from one character boundary to another. -/
  cut : ∀ s ∈ spans, ∃ before word after, Cut offset text s before word after ∧
    IsWordBefore word after
  /-- Each significant character is in exactly one span. -/
  covered : ∀ before c after, text = before ++ c :: after → IsSignificant c →
    ∃! s, s ∈ spans ∧ s.first ≤ offset + byteCount before ∧ offset + byteCount before ≤ s.last

/-! ## Symbols and literals -/

theorem byteCount_pos {text : List Char} (h : text ≠ []) : 0 < byteCount text := by
  obtain ⟨c, rest, rfl⟩ := List.exists_cons_of_ne_nil h
  have hc := c.utf8Size_pos
  rw [byteCount_cons]
  omega

theorem Literal.chars_eq_cons (l : Literal) :
    ∃ c rest, l.chars = c :: rest ∧ c.isDigit = true := by
  obtain ⟨whole, fraction, hne, hwhole, hfraction⟩ := l
  obtain ⟨c, digits, rfl⟩ := List.exists_cons_of_ne_nil hne
  have hc := hwhole c (List.mem_cons_self ..)
  cases fraction with
  | none => exact ⟨c, digits, rfl, hc⟩
  | some places => exact ⟨c, digits ++ '.' :: places, rfl, hc⟩

/-- Words start with significant characters. -/
theorem IsWordBefore.exists_cons {word after : List Char} (h : IsWordBefore word after) :
    ∃ c rest, word = c :: rest ∧ IsSignificant c := by
  obtain ⟨c, hc, rfl⟩ | ⟨l, rfl, -⟩ := h
  · exact ⟨c, [], rfl, .inr hc⟩
  · obtain ⟨c, rest, hl, hc⟩ := l.chars_eq_cons
    exact ⟨c, rest, hl, .inl hc⟩

theorem IsWordBefore.byteCount_pos {word after : List Char} (h : IsWordBefore word after) :
    0 < byteCount word := by
  obtain ⟨c, rest, rfl, -⟩ := h.exists_cons
  exact Reckoner.byteCount_pos (List.cons_ne_nil c rest)

theorem symbolAt?_of_mem_symbols {c : Char} (h : c ∈ symbols) :
    ∃ token, token.SpelledBy [c] ∧ c.utf8Size = 1 ∧
      ∀ offset, symbolAt? c offset = some ⟨token, .single offset⟩ := by
  simp only [symbols, List.mem_cons, List.not_mem_nil, or_false] at h
  obtain rfl | rfl | rfl | rfl | rfl | rfl := h
  · exact ⟨_, .operator .add, rfl, fun _ => rfl⟩
  · exact ⟨_, .operator .sub, rfl, fun _ => rfl⟩
  · exact ⟨_, .operator .mul, rfl, fun _ => rfl⟩
  · exact ⟨_, .operator .div, rfl, fun _ => rfl⟩
  · exact ⟨_, .leftParen, rfl, fun _ => rfl⟩
  · exact ⟨_, .rightParen, rfl, fun _ => rfl⟩

/-! ## Reading a text word by word -/

/-- A character without meaning between two tokens is passed over. -/
theorem lexemesFrom_skip {c : Char} (h : ¬IsSignificant c) (offset : Nat) (rest : List Char) :
    lexemesFrom .between offset (c :: rest) =
      lexemesFrom .between (offset + c.utf8Size) rest := by
  obtain ⟨hdigit, hsymbol⟩ := not_or.1 h
  rw [lexemesFrom, symbolAt?_of_not_mem_symbols hsymbol]
  simp [hdigit]

/-- Where a literal cannot be continued, it is complete. -/
theorem lexemesFrom_literal_complete {pointSeen : Bool} {after : List Char}
    (h : ∀ c ∈ after.head?, c.isDigit = false ∧ (c = '.' → pointSeen = true))
    (start offset : Nat) (read : List Char) :
    lexemesFrom (.literal start read pointSeen) offset after =
      literalLexeme start offset read :: lexemesFrom .between offset after := by
  cases after with
  | nil => rfl
  | cons c after =>
    obtain ⟨hdigit, hpoint⟩ := h c rfl
    have hends : ¬(c = '.' ∧ pointSeen = false) := by
      rintro ⟨rfl, hseen⟩
      rw [hpoint rfl] at hseen
      cases hseen
    rw [lexemesFrom, lexemesFrom, if_neg (by simp [hdigit]), if_neg hends]
    cases symbolAt? c offset <;> simp [hdigit]

theorem lexemesFrom_literal {l : Literal} {after : List Char} (h : l.EndsBefore after)
    (offset : Nat) :
    lexemesFrom .between offset (l.chars ++ after) =
      ⟨.number l.number, wordSpan offset l.chars⟩ ::
        lexemesFrom .between (offset + byteCount l.chars) after := by
  obtain ⟨whole, fraction, hne, hwhole, hfraction⟩ := l
  cases fraction with
  | none =>
    have hpoint : '.' ∉ whole := fun hmem => absurd (hwhole '.' hmem) (by decide)
    have hends : ∀ c ∈ after.head?, c.isDigit = false ∧ (c = '.' → false = true) := by
      intro c hc
      exact ⟨(h c hc).1, fun heq => absurd ((h c hc).2 heq) hpoint⟩
    have hread := lexemesFrom_whole hne hwhole offset after
    rw [lexemesFrom_literal_complete hends, literalLexeme, List.reverse_reverse] at hread
    exact hread
  | some places =>
    have hplaces := hfraction places rfl
    have hends : ∀ c ∈ after.head?, c.isDigit = false ∧ (c = '.' → true = true) :=
      fun c hc => ⟨(h c hc).1, fun _ => rfl⟩
    have hpoint : lexemesFrom (.literal offset whole.reverse false) (offset + byteCount whole)
        ('.' :: (places ++ after)) = lexemesFrom (.literal offset ('.' :: whole.reverse) true)
          (offset + byteCount whole + 1) (places ++ after) := rfl
    have hread := lexemesFrom_whole hne hwhole offset ('.' :: (places ++ after))
    have hbytes : byteCount (whole ++ '.' :: places) = byteCount whole + 1 + byteCount places := by
      rw [byteCount_append, byteCount_cons, Nat.add_assoc]
      rfl
    have hchars : Literal.chars ⟨whole, some places, hne, hwhole, hfraction⟩ =
        whole ++ '.' :: places := rfl
    rw [hpoint, lexemesFrom_digits hplaces, lexemesFrom_literal_complete hends,
      literalLexeme] at hread
    rw [hchars, List.append_assoc, List.cons_append, hread, wordSpan, hbytes]
    simp [Literal.number, Literal.chars, Nat.add_assoc]

/-- A word at the front of a text is its first token. -/
theorem lexemesFrom_word {word after : List Char} (h : IsWordBefore word after) (offset : Nat) :
    ∃ token, token.SpelledBy word ∧ lexemesFrom .between offset (word ++ after) =
      ⟨token, wordSpan offset word⟩ :: lexemesFrom .between (offset + byteCount word) after := by
  obtain ⟨c, hc, rfl⟩ | ⟨l, rfl, hl⟩ := h
  · obtain ⟨token, hspelled, hsize, hsymbol⟩ := symbolAt?_of_mem_symbols hc
    refine ⟨token, hspelled, ?_⟩
    rw [List.singleton_append, lexemesFrom, hsymbol, wordSpan, byteCount_cons, hsize]
    rfl
  · exact ⟨.number l.number, .literal l, lexemesFrom_literal hl offset⟩

theorem isDigit_of_mem_takeWhile (text : List Char) :
    ∀ c ∈ text.takeWhile Char.isDigit, c.isDigit = true :=
  List.all_eq_true.1 List.all_takeWhile

theorem isDigit_of_mem_head?_dropWhile (text : List Char) :
    ∀ c ∈ (text.dropWhile Char.isDigit).head?, c.isDigit = false := by
  intro c hc
  have hnot := List.head?_dropWhile_not Char.isDigit text
  rw [Option.mem_def.1 hc] at hnot
  exact hnot

/-- A text that starts with a digit starts with a literal that ends as late as
possible. -/
theorem exists_literal {c : Char} (hc : c.isDigit = true) (rest : List Char) :
    ∃ (l : Literal) (after : List Char), c :: rest = l.chars ++ after ∧ l.EndsBefore after := by
  have hsplit : (c :: rest).takeWhile Char.isDigit ++ (c :: rest).dropWhile Char.isDigit =
      c :: rest := List.takeWhile_append_dropWhile
  have hne : (c :: rest).takeWhile Char.isDigit ≠ [] := by simp [hc]
  have hwhole := isDigit_of_mem_takeWhile (c :: rest)
  have hstop := isDigit_of_mem_head?_dropWhile (c :: rest)
  generalize (c :: rest).takeWhile Char.isDigit = whole at *
  generalize (c :: rest).dropWhile Char.isDigit = others at *
  by_cases hpoint : others.head? = some '.'
  · obtain ⟨more, rfl⟩ := List.head?_eq_some_iff.1 hpoint
    refine ⟨⟨whole, some (more.takeWhile Char.isDigit), hne, hwhole, ?_⟩,
      more.dropWhile Char.isDigit, ?_, fun d hd => ?_⟩
    · rintro _ ⟨⟩
      exact isDigit_of_mem_takeWhile more
    · rw [← hsplit, Literal.chars, List.append_assoc, List.cons_append,
        List.takeWhile_append_dropWhile]
    · exact ⟨isDigit_of_mem_head?_dropWhile more d hd, fun _ => by simp [Literal.chars]⟩
  · refine ⟨⟨whole, none, hne, hwhole, by simp⟩, others, hsplit.symm, fun d hd => ?_⟩
    refine ⟨hstop d hd, ?_⟩
    rintro rfl
    exact absurd hd hpoint

/-- A text is empty, or starts with a character without meaning, or with a
word. -/
theorem exists_wordBefore {c : Char} (hc : IsSignificant c) (rest : List Char) :
    ∃ word after, c :: rest = word ++ after ∧ IsWordBefore word after := by
  obtain hdigit | hsymbol := hc
  · obtain ⟨l, after, htext, hl⟩ := exists_literal hdigit rest
    exact ⟨l.chars, after, htext, .inr ⟨l, rfl, hl⟩⟩
  · exact ⟨[c], rest, rfl, .inl ⟨c, hsymbol, rfl⟩⟩

/-- Only one word can stand at the front of a text. -/
theorem IsWordBefore.unique {word after word' after' : List Char} (h : IsWordBefore word after)
    (h' : IsWordBefore word' after') (htext : word ++ after = word' ++ after') :
    word = word' ∧ after = after' := by
  obtain ⟨token, -, hread⟩ := lexemesFrom_word h 0
  obtain ⟨token', -, hread'⟩ := lexemesFrom_word h' 0
  rw [htext, hread'] at hread
  have hspan : wordSpan 0 word' = wordSpan 0 word :=
    congrArg Lexeme.span (List.cons.inj hread).1
  have hpos := h.byteCount_pos
  have hpos' := h'.byteCount_pos
  have hbytes : byteCount word = byteCount word' := by
    have hlast := congrArg Span.last hspan
    simp only [wordSpan] at hlast
    omega
  have hsplit := splitAtByte?_append word after
  rw [hbytes, htext, splitAtByte?_append] at hsplit
  obtain ⟨hword, hafter⟩ := Prod.mk.inj (Option.some.inj hsplit)
  exact ⟨hword.symm, hafter.symm⟩

/-- Induction along a text: characters without meaning and words are taken off
its front. -/
theorem front_induction {motive : Nat → List Char → Prop} (nil : ∀ offset, motive offset [])
    (skip : ∀ offset c rest, ¬IsSignificant c → motive (offset + c.utf8Size) rest →
      motive offset (c :: rest))
    (word : ∀ offset word after, IsWordBefore word after →
      motive (offset + byteCount word) after → motive offset (word ++ after))
    (offset : Nat) (text : List Char) : motive offset text := by
  induction hn : text.length using Nat.strongRecOn generalizing offset text with
  | ind n ih =>
  subst hn
  cases text with
  | nil => exact nil offset
  | cons c rest =>
    by_cases hc : IsSignificant c
    · obtain ⟨front, after, htext, hfront⟩ := exists_wordBefore hc rest
      obtain ⟨d, others, hcons, -⟩ := hfront.exists_cons
      have hshorter : after.length < (c :: rest).length := by
        rw [htext, List.length_append, hcons, List.length_cons]
        omega
      rw [htext]
      exact word offset front after hfront (ih _ hshorter _ _ rfl)
    · exact skip offset c rest hc (ih _ (Nat.lt_succ_self _) _ _ rfl)

/-- Only texts without significant characters have no tokens. -/
theorem lexemesFrom_eq_nil_iff (offset : Nat) (text : List Char) :
    lexemesFrom .between offset text = [] ↔ ∀ c ∈ text, ¬IsSignificant c := by
  induction offset, text using front_induction with
  | nil offset => exact ⟨nofun, fun _ => rfl⟩
  | skip offset c rest hc ih =>
    rw [lexemesFrom_skip hc, ih, List.forall_mem_cons]
    exact ⟨fun h => ⟨hc, h⟩, And.right⟩
  | word offset word after hword ih =>
    obtain ⟨token, -, hread⟩ := lexemesFrom_word hword offset
    obtain ⟨c, rest, rfl, hc⟩ := hword.exists_cons
    rw [hread]
    exact ⟨nofun, fun h => absurd hc (h c (List.mem_cons_self ..))⟩

theorem tokenize_eq_nil_iff {text : String} :
    tokenize text = [] ↔ ∀ c ∈ text.toList, ¬IsSignificant c := by
  rw [tokenize, tokenizeChars_eq_lexemesFrom, lexemesFrom_eq_nil_iff]

/-! ## Moving the front of a text -/

variable {offset : Nat} {text front before word after : List Char} {s : Span} {spans : List Span}

theorem Cut.append (h : Cut (offset + byteCount front) text s before word after) :
    Cut offset (front ++ text) s (front ++ before) word after where
  text_eq := by rw [h.text_eq, List.append_assoc]
  first_eq := by rw [h.first_eq, byteCount_append, Nat.add_assoc]
  last_eq := h.last_eq

theorem Cut.cons {c : Char} (h : Cut (offset + c.utf8Size) text s before word after) :
    Cut offset (c :: text) s (c :: before) word after where
  text_eq := by rw [h.text_eq, List.cons_append]
  first_eq := by rw [h.first_eq, byteCount_cons, Nat.add_assoc]
  last_eq := h.last_eq

/-- Of two beginnings of a text, the one with fewer bytes is the beginning of the
other. -/
theorem exists_append_of_byteCount_le {rest : List Char}
    (htext : front ++ text = before ++ rest) (hbytes : byteCount front ≤ byteCount before) :
    ∃ before', before = front ++ before' ∧ text = before' ++ rest := by
  obtain h | ⟨more, rfl, rfl⟩ := List.append_eq_append_iff.1 htext
  · exact h
  · have hnone : more = [] := by
      by_contra hne
      have hpos := byteCount_pos hne
      rw [byteCount_append] at hbytes
      omega
    subst hnone
    exact ⟨[], by simp, rfl⟩

/-- What a span covers behind the front of a text, it covers in what is left
without the front. -/
theorem Cut.of_append (h : Cut offset (front ++ text) s before word after)
    (hfirst : offset + byteCount front ≤ s.first) :
    ∃ before', before = front ++ before' ∧
      Cut (offset + byteCount front) text s before' word after := by
  have hbytes : byteCount front ≤ byteCount before := by
    have := h.first_eq
    omega
  obtain ⟨before', rfl, htext⟩ := exists_append_of_byteCount_le h.text_eq hbytes
  refine ⟨before', rfl, htext, ?_, h.last_eq⟩
  rw [h.first_eq, byteCount_append, Nat.add_assoc]

theorem Cut.first_le_last (h : Cut offset text s before word after)
    (hword : IsWordBefore word after) : s.first ≤ s.last := by
  have hpos := hword.byteCount_pos
  have hlast := h.last_eq
  omega

theorem Segmentation.first_le_last (h : Segmentation offset text spans) (hs : s ∈ spans) :
    offset ≤ s.first ∧ s.first ≤ s.last := by
  obtain ⟨before, word, after, hcut, hword⟩ := h.cut s hs
  have hfirst := hcut.first_eq
  exact ⟨by omega, hcut.first_le_last hword⟩

/-- Spans that follow each other have no byte in common. -/
theorem eq_of_ordered (ho : spans.Pairwise fun s t => s.last < t.first) {t : Span} {byte : Nat}
    (hs : s ∈ spans) (ht : t ∈ spans) (hbs : s.first ≤ byte ∧ byte ≤ s.last)
    (hbt : t.first ≤ byte ∧ byte ≤ t.last) : s = t := by
  induction ho with
  | nil => cases hs
  | cons hlt _ ih =>
    rcases List.mem_cons.1 hs with rfl | hs' <;> rcases List.mem_cons.1 ht with rfl | ht'
    · rfl
    · have := hlt t ht'
      omega
    · have := hlt s hs'
      omega
    · exact ih hs' ht'

/-- It is enough that each significant character is in a span. -/
theorem Segmentation.of_covered (ho : spans.Pairwise fun s t => s.last < t.first)
    (hcut : ∀ s ∈ spans, ∃ before word after, Cut offset text s before word after ∧
      IsWordBefore word after)
    (hcov : ∀ before c after, text = before ++ c :: after → IsSignificant c →
      ∃ s ∈ spans, s.first ≤ offset + byteCount before ∧ offset + byteCount before ≤ s.last) :
    Segmentation offset text spans where
  ordered := ho
  cut := hcut
  covered before c after htext hc := by
    obtain ⟨s, hs, hbyte⟩ := hcov before c after htext hc
    exact ⟨s, ⟨hs, hbyte⟩, fun t ⟨ht, hbyte'⟩ => eq_of_ordered ho ht hs hbyte' hbyte⟩

/-! ## Segmentations from the front -/

theorem segmentation_nil_iff : Segmentation offset [] spans ↔ spans = [] := by
  constructor
  · intro h
    rw [List.eq_nil_iff_forall_not_mem]
    intro s hs
    obtain ⟨before, word, after, hcut, hword⟩ := h.cut s hs
    obtain ⟨c, rest, rfl, -⟩ := hword.exists_cons
    exact absurd hcut.text_eq (by simp)
  · rintro rfl
    exact .of_covered .nil (by simp) (by simp)

/-- A character without meaning at the front makes no difference. -/
theorem segmentation_skip_iff {c : Char} (hc : ¬IsSignificant c) :
    Segmentation offset (c :: text) spans ↔ Segmentation (offset + c.utf8Size) text spans := by
  constructor
  · intro h
    refine .of_covered h.ordered (fun s hs => ?_) fun before d after htext hd => ?_
    · obtain ⟨before, word, after, ⟨htext, hfirst, hlast⟩, hword⟩ := h.cut s hs
      cases before with
      | nil =>
        -- a word would start with the character
        obtain ⟨d, rest, rfl, hd⟩ := hword.exists_cons
        cases htext
        exact absurd hd hc
      | cons d before =>
        obtain ⟨rfl, hrest⟩ := List.cons.inj htext
        rw [byteCount_cons, ← Nat.add_assoc] at hfirst
        exact ⟨before, word, after, ⟨hrest, hfirst, hlast⟩, hword⟩
    · obtain ⟨s, ⟨hs, hbyte⟩, -⟩ := h.covered (c :: before) d after (by rw [htext]; rfl) hd
      rw [byteCount_cons, ← Nat.add_assoc] at hbyte
      exact ⟨s, hs, hbyte⟩
  · intro h
    refine .of_covered h.ordered (fun s hs => ?_) fun before d after htext hd => ?_
    · obtain ⟨before, word, after, hcut, hword⟩ := h.cut s hs
      exact ⟨c :: before, word, after, hcut.cons, hword⟩
    · cases before with
      | nil =>
        cases htext
        exact absurd hd hc
      | cons e before =>
        obtain ⟨rfl, hrest⟩ := List.cons.inj htext
        obtain ⟨s, ⟨hs, hbyte⟩, -⟩ := h.covered before d after hrest hd
        rw [byteCount_cons, ← Nat.add_assoc]
        exact ⟨s, hs, hbyte⟩

theorem cut_wordSpan (hword : IsWordBefore word after) (offset : Nat) :
    Cut offset (word ++ after) (wordSpan offset word) [] word after where
  text_eq := rfl
  first_eq := rfl
  last_eq := by
    have hpos := hword.byteCount_pos
    simp only [wordSpan]
    omega

/-- The word at the front of a text is covered by the first span. -/
theorem Segmentation.exists_cons (h : Segmentation offset (word ++ after) spans)
    (hword : IsWordBefore word after) : ∃ tail, spans = wordSpan offset word :: tail := by
  obtain ⟨c, rest, hcons, hc⟩ := hword.exists_cons
  obtain ⟨s, ⟨hs, hfirst, hlast⟩, -⟩ := h.covered [] c (rest ++ after) (by rw [hcons]; rfl) hc
  obtain ⟨before, word', after', hcut, hword'⟩ := h.cut s hs
  rw [byteCount_nil, Nat.add_zero] at hfirst hlast
  obtain rfl : before = [] := by
    by_contra hne
    have hpos := byteCount_pos hne
    have hat := hcut.first_eq
    omega
  -- nothing can be before the first byte
  obtain ⟨left, right, rfl⟩ := List.append_of_mem hs
  obtain rfl : left = [] := by
    rw [List.eq_nil_iff_forall_not_mem]
    intro t ht
    have hbefore := (List.pairwise_append.1 h.ordered).2.2 t ht s (List.mem_cons_self ..)
    have hbounds := h.first_le_last (List.mem_append_left _ ht)
    omega
  obtain ⟨rfl, -⟩ := hword.unique hword' hcut.text_eq
  refine ⟨right, congrArg (· :: right) ?_⟩
  obtain ⟨first, last⟩ := s
  have hat := hcut.first_eq
  have hend := hcut.last_eq
  simp only [byteCount_nil, Nat.add_zero] at hat hend
  rw [wordSpan, hat, Span.mk.injEq]
  omega

/-- A word at the front is the first span, and the others are a segmentation of
what follows. -/
theorem segmentation_word_iff (hword : IsWordBefore word after) :
    Segmentation offset (word ++ after) (wordSpan offset word :: spans) ↔
      Segmentation (offset + byteCount word) after spans := by
  have hcutWord := cut_wordSpan hword offset
  have hfirst := hcutWord.first_eq
  have hlast := hcutWord.last_eq
  generalize wordSpan offset word = s at *
  rw [byteCount_nil, Nat.add_zero] at hfirst
  constructor
  · intro h
    obtain ⟨hafter, hordered⟩ := List.pairwise_cons.1 h.ordered
    refine .of_covered hordered (fun t ht => ?_) fun before d rest htext hd => ?_
    · obtain ⟨before, word', after', hcut, hword'⟩ := h.cut t (List.mem_cons_of_mem _ ht)
      have hlt := hafter t ht
      obtain ⟨before', -, hcut'⟩ := hcut.of_append (by omega)
      exact ⟨before', word', after', hcut', hword'⟩
    · have hsplit : word ++ after = (word ++ before) ++ d :: rest := by
        rw [htext, List.append_assoc]
      obtain ⟨t, ⟨ht, hbyte⟩, -⟩ := h.covered (word ++ before) d rest hsplit hd
      rw [byteCount_append, ← Nat.add_assoc] at hbyte
      rcases List.mem_cons.1 ht with rfl | ht
      · omega
      · exact ⟨t, ht, hbyte⟩
  · intro h
    refine .of_covered (List.pairwise_cons.2 ⟨fun t ht => ?_, h.ordered⟩) (fun t ht => ?_)
      fun before d rest htext hd => ?_
    · have hbounds := h.first_le_last ht
      omega
    · rcases List.mem_cons.1 ht with rfl | ht
      · exact ⟨[], word, after, hcutWord, hword⟩
      · obtain ⟨before, word', after', hcut, hword'⟩ := h.cut t ht
        exact ⟨word ++ before, word', after', hcut.append, hword'⟩
    · by_cases hin : byteCount before < byteCount word
      · exact ⟨s, List.mem_cons_self .., by omega, by omega⟩
      · obtain ⟨more, rfl, hafter⟩ := exists_append_of_byteCount_le htext (Nat.not_lt.1 hin)
        obtain ⟨t, ⟨ht, hbyte⟩, -⟩ := h.covered more d rest hafter hd
        rw [byteCount_append, ← Nat.add_assoc]
        exact ⟨t, List.mem_cons_of_mem _ ht, hbyte⟩

/-! ## The only segmentation -/

/-- **The tokens of a text are its only segmentation.** -/
theorem segmentation_iff (offset : Nat) (text : List Char) (spans : List Span) :
    Segmentation offset text spans ↔
      spans = (lexemesFrom .between offset text).map Lexeme.span := by
  induction offset, text using front_induction generalizing spans with
  | nil offset => exact segmentation_nil_iff
  | skip offset c rest hc ih => rw [lexemesFrom_skip hc, segmentation_skip_iff hc, ih]
  | word offset word after hword ih =>
    obtain ⟨token, -, hread⟩ := lexemesFrom_word hword offset
    rw [hread, List.map_cons]
    constructor
    · intro h
      obtain ⟨tail, rfl⟩ := h.exists_cons hword
      rw [segmentation_word_iff hword, ih] at h
      rw [h]
    · rintro rfl
      rw [segmentation_word_iff hword, ih]

/-- Each token is spelled by the word that its span covers. -/
theorem exists_cut_of_mem_lexemesFrom (offset : Nat) (text : List Char) :
    ∀ item ∈ lexemesFrom .between offset text, ∃ before word after,
      Cut offset text item.span before word after ∧ item.token.SpelledBy word := by
  induction offset, text using front_induction with
  | nil offset => simp [lexemesFrom]
  | skip offset c rest hc ih =>
    rw [lexemesFrom_skip hc]
    intro item hitem
    obtain ⟨before, word, after, hcut, hspelled⟩ := ih item hitem
    exact ⟨c :: before, word, after, hcut.cons, hspelled⟩
  | word offset word after hword ih =>
    obtain ⟨token, hspelled, hread⟩ := lexemesFrom_word hword offset
    rw [hread]
    intro item hitem
    rcases List.mem_cons.1 hitem with rfl | hitem
    · exact ⟨[], word, after, cut_wordSpan hword offset, hspelled⟩
    · obtain ⟨before, word', after', hcut, hspelled'⟩ := ih item hitem
      exact ⟨word ++ before, word', after', hcut.append, hspelled'⟩

/-- What a span covers in a text that starts at byte zero. -/
theorem Cut.charsIn_eq (h : Cut 0 text s before word after) : s.charsIn text = word := by
  obtain ⟨rfl, hfirst, hlast⟩ := h
  have hlength : s.last + 1 - s.first = byteCount word := by omega
  rw [Span.charsIn, hfirst, Nat.zero_add, splitAtByte?_append, ← Nat.zero_add (byteCount before),
    ← hfirst, hlength]
  dsimp only
  rw [splitAtByte?_append]

/-- **A text is cut into its tokens.**  Their spans are a segmentation of the
text, each token is spelled by the part of the text that its span covers, and
the text has no other segmentation. -/
theorem tokenize_segmentation (text : String) :
    Segmentation 0 text.toList ((tokenize text).map Lexeme.span) ∧
    (∀ item ∈ tokenize text, item.token.SpelledBy (item.span.charsIn text.toList)) ∧
    ∀ spans, Segmentation 0 text.toList spans → spans = (tokenize text).map Lexeme.span := by
  have hread : tokenize text = lexemesFrom .between 0 text.toList :=
    tokenizeChars_eq_lexemesFrom text.toList
  rw [hread]
  refine ⟨(segmentation_iff _ _ _).2 rfl, fun item hitem => ?_,
    fun spans h => (segmentation_iff _ _ _).1 h⟩
  obtain ⟨before, word, after, hcut, hspelled⟩ := exists_cut_of_mem_lexemesFrom _ _ item hitem
  rw [hcut.charsIn_eq]
  exact hspelled

/-- The letter takes two bytes, and a second point ends the literal. -/
example : (tokenize "é1.2.3").map Lexeme.span = [⟨2, 4⟩, ⟨6, 6⟩] := rfl

end Reckoner
