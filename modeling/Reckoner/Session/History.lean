import Reckoner.Text.Lines

/-!
# Histories

A history holds the lines entered in interactive sessions, up to a fixed number
of them.  A line equal to the one before it is not entered again.

In a file a history starts with a line that names the format, and each entry
takes one line, in which backslashes and line feeds are escaped.
-/

namespace Reckoner

/-- The lines entered, and whether any of them is new. -/
structure History where
  /-- The entries, newest first. -/
  entries : List String
  /-- Whether an entry was added since the history was loaded. -/
  changed : Bool
deriving DecidableEq, Repr

namespace History

/-- The history without entries. -/
def empty : History := ⟨[], false⟩

/-- The number of entries that a history keeps. -/
def capacity : Nat := 100

/-- Enters a line, unless it is empty or equal to the newest entry.  Beyond the
capacity the oldest entry is dropped. -/
def add (h : History) (line : String) : History :=
  if line.isEmpty ∨ h.entries.head? = some line then h
  else ⟨(line :: h.entries).take capacity, true⟩

/-! ## Files -/

/-- The line at the start of a history file. -/
def header : String := "#V2"

/-- An entry on one line. -/
def escape (entry : List Char) : List Char :=
  entry.flatMap fun c =>
    if c = '\\' then ['\\', '\\'] else if c = '\n' then ['\\', 'n'] else [c]

/-- The entry on a line; nothing when a backslash is followed by something that
is never escaped. -/
def unescape? : List Char → Option (List Char)
  | [] => some []
  | '\\' :: '\\' :: rest => (unescape? rest).map ('\\' :: ·)
  | '\\' :: 'n' :: rest => (unescape? rest).map ('\n' :: ·)
  | c :: rest => if c = '\\' then none else (unescape? rest).map (c :: ·)

/-- The entry on a line; a line with a wrong escape is taken as it is. -/
def unescape (line : String) : String :=
  match unescape? line.toList with
  | some entry => String.ofList entry
  | none => line

/-- The history that a file holds.  In a file without the header every line is
an entry as it stands. -/
def ofText (text : String) : History :=
  let entries := match linesOf text with
    | first :: lines => if first = header then lines.map unescape else first :: lines
    | [] => []
  { entries.foldl add empty with changed := false }

/-- The text of a history file. -/
def toText (h : History) : String :=
  header ++ "\n" ++ String.join (h.entries.reverse.map fun entry =>
    String.ofList (escape entry.toList) ++ "\n")

/-- The text that the file of a history gets after lines have been entered, from
the text that it had; nothing when no entry is new. -/
def textAfter? (text : Option String) (entered : List String) : Option String :=
  let history := entered.foldl add (text.elim empty ofText)
  if history.changed then some history.toText else none

/-- Writing an entry on a line and reading it gives the entry. -/
theorem unescape?_escape (entry : List Char) : unescape? (escape entry) = some entry := by
  induction entry with
  | nil => rfl
  | cons c rest ih =>
    rw [escape] at ih ⊢
    rw [List.flatMap_cons]
    by_cases hb : c = '\\'
    · subst hb
      simp [unescape?, ih]
    · by_cases hn : c = '\n'
      · subst hn
        simp [unescape?, ih]
      · simp [unescape?, hb, hn, ih]

end History

end Reckoner
