import Reckoner.Settings.Assignment

/-!
# Variable files

A variable file holds assignments, one on a line.  A line whose quotes are still
open goes on with the next one.  Blank lines and lines that start with `#` are
passed over.  At a line of any other form the file ends.
-/

namespace Reckoner.VariableFile

/-! ## Lines -/

/-- Splits a text after each line feed.  `line` holds the characters of the
current line so far, newest first, and `done` the lines before it, newest
first. -/
def splitAfterFeeds (line : List Char) (done : List (List Char)) : List Char → List (List Char)
  | [] => if line.isEmpty then done.reverse else (line.reverse :: done).reverse
  | c :: rest =>
    if c = '\n' then splitAfterFeeds [] ((c :: line).reverse :: done) rest
    else splitAfterFeeds (c :: line) done rest

/-- What the characters before a place in a line mean for the next one. -/
inductive Place where
  /-- Nothing. -/
  | plain
  /-- A blank came before, so that a comment may begin.  The character after the
  blank ends this place, another blank too. -/
  | blank
  /-- A backslash came before. -/
  | escaped
  /-- A quote is open that the character `mark` closes. -/
  | quoted (mark : Char)
  /-- A backslash came before inside a quote. -/
  | quotedEscaped (mark : Char)
deriving DecidableEq, Repr

namespace Place

/-- The place after a character that does not part anything. -/
def afterMark (c : Char) : Place :=
  if c = '\\' then escaped else if c = '"' ∨ c = '\'' then quoted c else plain

/-- The place after a character. -/
def after : Place → Char → Place
  | plain, c => if isBlank c ∧ c ≠ '\n' ∧ c ≠ '\x0d' then blank else afterMark c
  | blank, c => afterMark c
  | escaped, _ => plain
  | quoted mark, c =>
    if c = '\\' then quotedEscaped mark else if c = mark then plain else quoted mark
  | quotedEscaped mark, _ => quoted mark

/-- Reads a line from a place on.  The result is the place at its end, and the
line up to the comment that ends it, if one does. -/
def read (place : Place) : List Char → Place × List Char
  | [] => (place, [])
  | c :: rest =>
    if place = blank ∧ c = '#' then (plain, [])
    else
      let (last, kept) := (place.after c).read rest
      (last, c :: kept)

end Place

/-! ## Entries -/

/-- What one or more lines of a file are. -/
inductive Entry where
  /-- Nothing to take note of. -/
  | nothing
  /-- An assignment. -/
  | assignment (a : Assignment)
  /-- Of no form that is known. -/
  | malformed
deriving DecidableEq, Repr

/-- The entry on a line. -/
def Entry.ofLine (line : List Char) : Entry :=
  let text := trimChars line
  if Assignment.isComment text then .nothing
  else
    match Assignment.read? text with
    | some a => .assignment a
    | none => .malformed

/-- The entries on some lines, where `begun` stands before the first of them and
leads to `place`.  What is still incomplete at the end is malformed. -/
def entries (begun : List Char) (place : Place) : List (List Char) → List Entry
  | [] => if place = .plain then [] else [.malformed]
  | line :: lines =>
    if begun = [] ∧ (line.dropWhile isBlank).head? = some '#' then
      .nothing :: entries [] .plain lines
    else
      let (last, kept) := place.read line
      if last = .plain then .ofLine (begun ++ kept) :: entries [] .plain lines
      else entries (begun ++ kept) last lines

/-- The assignments among some entries, up to the first malformed one. -/
def assignmentsOf : List Entry → List Assignment
  | [] => []
  | .nothing :: rest => assignmentsOf rest
  | .assignment a :: rest => a :: assignmentsOf rest
  | .malformed :: _ => []

/-- A text without the byte order mark that it may start with. -/
def withoutOrderMark : List Char → List Char
  | [] => []
  | c :: rest => if c = '\ufeff' then rest else c :: rest

/-- The assignments of a file. -/
def assignments (file : String) : List Assignment :=
  assignmentsOf (entries [] .plain (splitAfterFeeds [] [] (withoutOrderMark file.toList)))

/-! ## Variables -/

/-- The value of a variable: the one that is given, or else the one among `set`. -/
def valueAmong? (given : String → Option String) (set : List (String × String))
    (name : String) : Option String :=
  (given name).or (set.lookup name)

/-- The variables that are set after one more assignment.  A variable that has a
value keeps it. -/
def assign (given : String → Option String) (set : List (String × String)) (a : Assignment) :
    List (String × String) :=
  if (valueAmong? given set a.name).isSome then set
  else (a.name, a.expand (valueAmong? given set)) :: set

/-- The value of a variable: the one that is given, or else the one that a file
sets. -/
def valueOf? (given : String → Option String) (file : Option String) (name : String) :
    Option String :=
  valueAmong? given ((assignments (file.getD "")).foldl (assign given) []) name

/-- The variables that a file sets or refers to. -/
def mentioned (file : String) : List String :=
  (assignments file).flatMap fun a => a.name :: a.references

end Reckoner.VariableFile
