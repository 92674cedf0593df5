import Reckoner.Text.Alphanumeric
import Reckoner.Text.Blank

/-!
# Assignments

An assignment `KEY=value` gives a value to a variable.  The word `export` may
stand before it.

In a value, single quotes keep everything as it stands; double quotes keep
blanks, while `\` and `$` work inside them as they do outside.  A backslash lets
the next character stand for itself, and `\n` is a line feed.  `$KEY` and
`${KEY}` stand for the value of another variable, and `${KEY=start}` for what
such a value holds after `start=`.  Outside quotes a value ends at the first
blank, after which only a comment may follow.
-/

namespace Reckoner

/-! ## Values -/

/-- A part of a written value. -/
inductive ValuePart where
  /-- A character. -/
  | character (c : Char)
  /-- The value of a variable, or the rest of it. -/
  | reference (name : String)
deriving DecidableEq, Repr

/-- A variable and the value written for it. -/
structure Assignment where
  name : String
  value : List ValuePart
deriving DecidableEq, Repr

/-! ## References -/

/-- The variable that a reference asks for: the name before the first `=`. -/
def referredName (name : String) : String :=
  String.ofList (name.toList.takeWhile fun c => c ≠ '=')

/-- The value that a reference asks for.  Variables are kept as entries
`KEY=value`, and a reference stands for the rest of the entry that starts with
it and one more `=`.  So a reference without `=` asks for a whole value, and one
with `=` for the rest of a value that starts with what follows the `=`. -/
def referredValue? (known : String → Option String) (name : String) : Option String :=
  match name.toList.dropWhile fun c => c ≠ '=' with
  | [] => known name
  | _ :: start =>
    (known (referredName name)).bind fun value =>
      ((start ++ ['=']).isPrefixOf? value.toList).map String.ofList

namespace ValuePart

/-- What a part stands for; a reference that asks for no value stands for
nothing. -/
def expand (known : String → Option String) : ValuePart → String
  | character c => c.toString
  | reference name => (referredValue? known name).getD ""

end ValuePart

namespace Assignment

/-- The value that an assignment gives. -/
def expand (known : String → Option String) (a : Assignment) : String :=
  String.join (a.value.map (ValuePart.expand known))

/-- The variables that the value of an assignment refers to. -/
def references (a : Assignment) : List String :=
  a.value.filterMap fun
    | .reference name => some (referredName name)
    | .character _ => none

/-! ## Reading values -/

/-- The two kinds of quotes. -/
inductive Quote where
  | single
  | double
deriving DecidableEq, Repr

/-- What the characters before a place in a value mean for the next one. -/
inductive Place where
  /-- Nothing. -/
  | plain
  /-- A backslash came before. -/
  | escaped
  /-- The name of a variable is being read, newest character first. -/
  | name (read : List Char)
  /-- The name of a variable is being read between braces, newest character
  first. -/
  | braces (read : List Char)
  /-- The value has ended. -/
  | gap
deriving DecidableEq, Repr

/-- A reference to the variable whose name has been read. -/
def referenceTo (read : List Char) : ValuePart := .reference (String.ofList read.reverse)

/-- What a character stands for after a backslash. -/
def unescape? (c : Char) : Option Char :=
  if c = 'n' then some '\n'
  else if c = '\\' ∨ c = '\'' ∨ c = '"' ∨ c = '$' ∨ c = ' ' then some c
  else none

/-- Whether a character parts a value from a comment. -/
def isGap (c : Char) : Bool := c = ' ' || c = '\t'

/-- Whether nothing but a comment follows. -/
def isComment : List Char → Bool
  | [] => true
  | c :: _ => c = '#'

/-- The parts of a value from a place on, where `quote` is open. -/
def readParts (quote : Option Quote) : Place → List Char → Option (List ValuePart)
  | place, [] =>
    match quote, place with
    | some _, _ | none, .braces _ => none
    | none, .name read => some [referenceTo read]
    | none, _ => some []
  | .gap, c :: rest =>
    if isGap c then readParts quote .gap rest else if c = '#' then some [] else none
  | .escaped, c :: rest =>
    match unescape? c with
    | some c => (readParts quote .plain rest).map (.character c :: ·)
    | none => none
  | .name read, c :: rest =>
    if isAlphanumeric c then readParts quote (.name (c :: read)) rest
    else if c = '\x7b' ∧ read = [] then readParts quote (.braces []) rest
    else
      let parts :=
        if c = '$' then readParts quote (.name []) rest
        else (readParts quote .plain rest).map (.character c :: ·)
      parts.map (referenceTo read :: ·)
  | .braces read, c :: rest =>
    if c = '\x7d' then (readParts quote .plain rest).map (referenceTo read :: ·)
    else readParts quote (.braces (c :: read)) rest
  | .plain, c :: rest =>
    match quote with
    | some .single =>
      if c = '\'' then readParts none .plain rest
      else (readParts quote .plain rest).map (.character c :: ·)
    | some .double =>
      if c = '$' then readParts quote (.name []) rest
      else if c = '"' then readParts none .plain rest
      else if c = '\\' then readParts quote .escaped rest
      else (readParts quote .plain rest).map (.character c :: ·)
    | none =>
      if c = '$' then readParts quote (.name []) rest
      else if c = '\'' then readParts (some .single) .plain rest
      else if c = '"' then readParts (some .double) .plain rest
      else if c = '\\' then readParts quote .escaped rest
      else if isGap c then readParts quote .gap rest
      else (readParts quote .plain rest).map (.character c :: ·)

/-- The parts of a whole value, which a comment may take the place of. -/
def readValue? (text : List Char) : Option (List ValuePart) :=
  if isComment text then some [] else readParts none .plain text

/-! ## Reading assignments -/

/-- A character that the name of a variable may start with. -/
def isNameStart (c : Char) : Bool := c.isAlpha || c = '_'

/-- A character that the name of a variable may hold. -/
def isNameChar (c : Char) : Bool := c.isAlphanum || c = '_' || c = '.'

/-- The name at the start of a text, and what follows it and the blanks after
it. -/
def readName? (text : List Char) : Option (List Char × List Char) :=
  if text.head?.any isNameStart then
    some (text.takeWhile isNameChar, (text.dropWhile isNameChar).dropWhile isBlank)
  else none

/-- The word that may stand before an assignment. -/
def exportWord : List Char := ['e', 'x', 'p', 'o', 'r', 't']

/-- The name that an assignment starts with, and what follows it.  The word
before an assignment may itself be the name. -/
def readTarget? (text : List Char) : Option (List Char × List Char) :=
  (readName? text).bind fun (name, rest) =>
    if name = exportWord ∧ rest.head? ≠ some '=' then readName? rest else some (name, rest)

/-- The assignment on a line without blanks around it. -/
def read? (line : List Char) : Option Assignment :=
  (readTarget? line).bind fun
    | (name, '=' :: rest) =>
      (readValue? (rest.dropWhile isBlank)).map fun value => ⟨String.ofList name, value⟩
    | _ => none

end Assignment

end Reckoner
