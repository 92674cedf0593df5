/-!
# Blank characters

The characters with the Unicode property `White_Space`, and the removal of
such characters from the two ends of a text.
-/

namespace Reckoner

/-! ## The property -/

/-- The first and last code points of each run of `White_Space` characters, in
increasing order. -/
def blankRanges : List (Nat × Nat) :=
  [(0x0009, 0x000D), (0x0020, 0x0020), (0x0085, 0x0085), (0x00A0, 0x00A0),
   (0x1680, 0x1680), (0x2000, 0x200A), (0x2028, 0x2029), (0x202F, 0x202F),
   (0x205F, 0x205F), (0x3000, 0x3000)]

/-- A character is blank when its code point lies in one of the ranges. -/
def isBlank (c : Char) : Bool :=
  blankRanges.any fun (first, last) => first ≤ c.toNat && c.toNat ≤ last

/-- The blanks of the ASCII range that the core library knows are blank. -/
theorem isBlank_of_isWhitespace {c : Char} (h : c.isWhitespace = true) : isBlank c = true := by
  simp only [Char.isWhitespace, Bool.or_eq_true, decide_eq_true_eq] at h
  rcases h with ((h | h) | h) | h <;> subst h <;> rfl

/-! ## Trimming -/

/-- A text without the blanks at its two ends. -/
def trimChars (text : List Char) : List Char :=
  ((text.dropWhile isBlank).reverse.dropWhile isBlank).reverse

/-- A string without the blanks at its two ends. -/
def trim (text : String) : String :=
  String.ofList (trimChars text.toList)

/-- A text of blanks only, which may be empty. -/
def isBlankText (text : String) : Bool :=
  text.toList.all isBlank

/-- A string trimmed and with its ASCII letters in lower case: the form in
which names and switches are compared. -/
def folded (text : String) : String :=
  String.ofList ((trimChars text.toList).map Char.toLower)

end Reckoner
