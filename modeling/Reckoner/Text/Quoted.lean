import Reckoner.Text.Extending
import Reckoner.Text.Unprintable

/-!
# Quoted text

Text is quoted so that every character of it can be seen: between double quotes,
with a backslash before quotes and backslashes, short escapes for the common
controls, and the code point in place of characters that do not show by
themselves.
-/

namespace Reckoner

/-! ## Characters that do not show -/

/-- The Hangul letters that hold the place of a letter and leave it blank. -/
def isFiller (c : Char) : Bool :=
  c = '\u115f' || c = '\u1160' || c = '\u3164' || c = '\uffa0'

/-- The sound marks that extend a character and yet stand in a place of their
own, half as wide as a letter. -/
def isHalfwidthMark (c : Char) : Bool :=
  c = '\uff9e' || c = '\uff9f'

/-- Whether a character does not show by itself: it is unprintable, or blank, or
a mark that is printed over its neighbour. -/
def isHidden (c : Char) : Bool :=
  isUnprintable c || isFiller c || (isExtending c && !isHalfwidthMark c)

/-! ## Quoting -/

/-- The code point of a character between braces, in hexadecimal. -/
def codePointEscape (c : Char) : List Char :=
  '\\' :: 'u' :: '\x7b' :: (Nat.toDigits 16 c.toNat ++ ['\x7d'])

/-- What stands for a character between quotes. -/
def quotedChar (c : Char) : List Char :=
  if c = '"' ∨ c = '\\' then ['\\', c]
  else if c = '\n' then ['\\', 'n']
  else if c = '\t' then ['\\', 't']
  else if c = '\x0d' then ['\\', 'r']
  else if c = '\x00' then ['\\', '0']
  else if isHidden c then codePointEscape c
  else [c]

/-- A text in quotes. -/
def quoted (text : String) : String :=
  String.ofList ('"' :: (text.toList.flatMap quotedChar ++ ['"']))

end Reckoner
