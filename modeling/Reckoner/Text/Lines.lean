/-!
# Lines

A line of text ends with a line feed, or with a carriage return and a line
feed; the last line may lack its end.
-/

namespace Reckoner

/-- Splits a text into lines.  `line` holds the characters of the current line
so far, newest first, and `done` the lines before it, newest first. -/
def splitLines (line : List Char) (done : List (List Char)) : List Char → List (List Char)
  | [] => if line.isEmpty then done.reverse else (line.reverse :: done).reverse
  | c :: rest =>
    if c = '\n' then
      let line := match line with
        | '\x0d' :: line => line
        | line => line
      splitLines [] (line.reverse :: done) rest
    else
      splitLines (c :: line) done rest

/-- The lines of a text, without their ends. -/
def linesOf (text : String) : List String :=
  (splitLines [] [] text.toList).map String.ofList

end Reckoner
