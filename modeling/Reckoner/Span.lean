import Reckoner.Text.Digits
import Reckoner.Text.Offset

/-!
# Spans

A span is a stretch of bytes in a text, given by the offsets of its first and
last byte.  It locates a token in the text that was read, and diagnostics mark
it by a line of carets below the text.
-/

namespace Reckoner

/-- The bytes from `first` up to and including `last`. -/
structure Span where
  first : Nat
  last : Nat
deriving DecidableEq, Repr

namespace Span

/-- The span of the single byte at an offset. -/
def single (offset : Nat) : Span := ⟨offset, offset⟩

/-- The written form of a span. -/
def text (s : Span) : String := "[" ++ natText s.first ++ ":" ++ natText s.last ++ "]"

/-! ## The part of a text that a span covers -/

/-- The characters a span covers; none when it does not start and end at
character boundaries of the text. -/
def charsIn (s : Span) (input : List Char) : List Char :=
  match splitAtByte? s.first input with
  | none => []
  | some (_, rest) =>
    match splitAtByte? (s.last + 1 - s.first) rest with
    | none => []
    | some (covered, _) => covered

/-- The part of a string that a span covers. -/
def textIn (s : Span) (input : String) : String :=
  String.ofList (s.charsIn input.toList)

/-- The number of characters before a span; zero when the span does not start
at a character boundary of the text. -/
def indentIn (s : Span) (input : List Char) : Nat :=
  match splitAtByte? s.first input with
  | none => 0
  | some (before, _) => before.length

/-- The line that marks a span: a space for each character before it, then a
caret for each character it covers, but at least one. -/
def underline (s : Span) (input : String) : String :=
  let chars := input.toList
  String.ofList
    (List.replicate (s.indentIn chars) ' ' ++
      List.replicate (max 1 (s.charsIn chars).length) '^')

end Span

end Reckoner
