import Reckoner.Token.Basic

/-!
# Token streams

A token stream reads the tokens of a text one at a time.  Digits, with at most
one point after the first of them, form a number literal that extends as far
to the right as possible; parentheses and operators are tokens of one
character; all other characters are passed over, among them a point that does
not belong to a literal.  Nothing is ever refused.

A literal is known to be complete only once the character after it has been
seen.  If that character is itself a token, the stream keeps it for the next
request.
-/

namespace Reckoner

/-- What a stream is in the middle of. -/
inductive ReadingMode where
  /-- Between two tokens. -/
  | between
  /-- Inside a literal that started at a byte offset.  Its characters so far are
  kept newest first, together with whether one of them is a point. -/
  | literal (start : Nat) (read : List Char) (pointSeen : Bool)
deriving DecidableEq

/-- A stream of the tokens of a text. -/
structure TokenStream where
  /-- The characters not yet looked at. -/
  rest : List Char
  /-- The byte offset of the first of them. -/
  offset : Nat
  /-- What the characters before belong to. -/
  mode : ReadingMode
  /-- A token that has been read but not handed out. -/
  pending : Option Lexeme
deriving DecidableEq

namespace TokenStream

/-- The stream at the start of a text. -/
def ofChars (text : List Char) : TokenStream := ⟨text, 0, .between, none⟩

/-- The one-character token at an offset, if the character is one. -/
def symbolAt? (c : Char) (offset : Nat) : Option Lexeme :=
  (Token.ofChar? c).map fun token => ⟨token, .single offset⟩

/-- The lexeme of a complete literal, given its characters newest first and the
offset just after it. -/
def literalLexeme (start stop : Nat) (read : List Char) : Lexeme :=
  ⟨.number (.ofLiteral read.reverse), ⟨start, stop - 1⟩⟩

/-! ## Reading one token -/

/-- Reads on until a token is complete, and gives it with the stream after it.
Where the text ends, a literal ends too. -/
def scan (mode : ReadingMode) (offset : Nat) : List Char → Option Lexeme × TokenStream
  | [] =>
    match mode with
    | .between => (none, ⟨[], offset, .between, none⟩)
    | .literal start read _ =>
      (some (literalLexeme start offset read), ⟨[], offset, .between, none⟩)
  | c :: rest =>
    let next := offset + c.utf8Size
    match mode with
    | .between =>
      match symbolAt? c offset with
      | some lexeme => (some lexeme, ⟨rest, next, .between, none⟩)
      | none =>
        if c.isDigit then scan (.literal offset [c] false) next rest
        else scan .between next rest
    | .literal start read pointSeen =>
      if c.isDigit then scan (.literal start (c :: read) pointSeen) next rest
      else if c = '.' ∧ pointSeen = false then scan (.literal start (c :: read) true) next rest
      else
        (some (literalLexeme start offset read), ⟨rest, next, .between, symbolAt? c offset⟩)

/-- The next token and the stream after it.  At the end there is no token, and
the stream stays at the end. -/
def next (s : TokenStream) : Option Lexeme × TokenStream :=
  match s.pending with
  | some lexeme => (some lexeme, { s with pending := none })
  | none => scan s.mode s.offset s.rest

/-- After a token, a stream is between two tokens. -/
theorem mode_scan (mode : ReadingMode) (offset : Nat) (text : List Char) :
    (scan mode offset text).2.mode = .between := by
  fun_induction scan mode offset text <;> simp_all

/-- A stream that has come to the end stays there. -/
theorem next_eq_none {s : TokenStream} (h : s.next.1 = none) :
    s.next.2.next = (none, s.next.2) := by
  have scan_none : ∀ (mode : ReadingMode) (offset : Nat) (text : List Char),
      (scan mode offset text).1 = none →
        ∃ stop, (scan mode offset text).2 = ⟨[], stop, .between, none⟩ := by
    intro mode offset text
    fun_induction scan mode offset text <;> simp_all
  unfold next at h
  split at h
  · simp at h
  · next hp =>
    obtain ⟨stop, hs⟩ := scan_none _ _ _ h
    have hn : s.next.2 = ⟨[], stop, .between, none⟩ := by
      rw [← hs, next, hp]
    rw [hn]
    rfl

/-- Skips `k` tokens and gives the one after them. -/
def nth (s : TokenStream) : (k : Nat) → Option Lexeme × TokenStream
  | 0 => s.next
  | k + 1 =>
    match s.next with
    | (none, s') => (none, s')
    | (some _, s') => s'.nth k

/-! ## Reading all tokens -/

/-- A bound on the number of tokens still to come: one for each character, one
for a literal being read and one for a token kept back. -/
def budget (s : TokenStream) : Nat :=
  s.rest.length + (if s.mode = .between then 0 else 1) + (if s.pending.isSome then 1 else 0)

/-- Collects at most `limit` tokens in front of those already `taken`, which
are kept newest first. -/
def collect (taken : List Lexeme) : (limit : Nat) → TokenStream → List Lexeme
  | 0, _ => taken.reverse
  | limit + 1, s =>
    match s.next with
    | (none, _) => taken.reverse
    | (some lexeme, s') => collect (lexeme :: taken) limit s'

/-- All tokens still to come. -/
def toList (s : TokenStream) : List Lexeme := collect [] s.budget s

end TokenStream

/-- The tokens of a list of characters. -/
def tokenizeChars (text : List Char) : List Lexeme := (TokenStream.ofChars text).toList

/-- The tokens of a text, each with its span. -/
def tokenize (text : String) : List Lexeme := tokenizeChars text.toList

end Reckoner
