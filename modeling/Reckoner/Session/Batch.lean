import Reckoner.Session.Transcript
import Reckoner.Text.Lines

/-!
# Batches

A batch is a text with an expression on each line.  Lines are trimmed and blank
ones left out; a faulty expression does not keep the others from being
evaluated, and the number of faulty ones is told at the end.
-/

namespace Reckoner

/-- How far a batch has come. -/
structure Batch where
  /-- What was written. -/
  transcript : Transcript
  /-- The number of expressions. -/
  total : Nat
  /-- The number of expressions that are faulty. -/
  faulty : Nat
deriving DecidableEq, Repr

namespace Batch

/-- A batch before its first line. -/
def start : Batch := ⟨.empty, 0, 0⟩

/-- Evaluates the expression on a line, unless the line is blank. -/
def readLine (color : Bool) (n : Notation) (batch : Batch) (line : String) : Batch :=
  let expression := trim line
  if expression.isEmpty then batch
  else
    { transcript := batch.transcript ++ report color n expression
      total := batch.total + 1
      faulty := if isValid n expression then batch.faulty else batch.faulty + 1 }

/-- The closing line that tells how many expressions were faulty, if any was. -/
def summary (batch : Batch) : Transcript :=
  if batch.faulty = 0 then .empty
  else .errLine
    (natText batch.faulty ++ " of " ++ natText batch.total ++ " expressions were invalid")

/-- What a batch writes and the status that it ends with. -/
def close (batch : Batch) : Transcript × Nat :=
  (batch.transcript ++ batch.summary, if batch.faulty = 0 then 0 else 1)

/-- The batch of a text. -/
def run (color : Bool) (n : Notation) (text : String) : Transcript × Nat :=
  ((linesOf text).foldl (readLine color n) start).close

end Batch

end Reckoner
