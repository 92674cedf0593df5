import Reckoner.Cursor.Basic

/-!
# Cursor programs

A cursor program is a list of operations on a cursor, with blocks of operations
that run one level deeper.  Running a program records what every operation
answered and how many lexemes were consumed by then.  A block stops at its first
operation that fails and fails with the same fault; a program goes on.
-/

namespace Reckoner

/-- An operation on a cursor. -/
inductive CursorStep where
  | atEnd
  | advance
  | nextItem
  | expectToken (token : Token)
  | expectOperator
  | openGroup
  | closeGroup (span : Span)
  /-- Opens a number of levels inside each other and closes them again. -/
  | descend (levels : Nat)
  /-- Runs a block one level deeper. -/
  | nested (span : Span) (body : List CursorStep)

/-- What an operation that succeeds answers. -/
inductive CursorAnswer where
  | done
  | flag (value : Bool)
  | lexeme (item : Lexeme)
  | lexeme? (item : Option Lexeme)
  | operator (op : Operator)
  | levels (count : Nat)
deriving DecidableEq

/-- The record of one operation. -/
inductive CursorRecord where
  /-- The outcome, the number of lexemes consumed by then, and for a block the
  records of the operations that ran in it. -/
  | step (outcome : Except Fault CursorAnswer) (consumed : Nat) (inner : Option (List CursorRecord))

namespace CursorRecord

/-- The outcome of the operation. -/
def outcome : CursorRecord → Except Fault CursorAnswer
  | step outcome _ _ => outcome

end CursorRecord

namespace Reading

/-- Opens `levels` levels inside each other; the level with `m` levels to come,
itself included, is opened by the place from byte `m` to byte `m`. -/
def descend (limit : Nat) : (levels : Nat) → Reading Unit
  | 0 => return ()
  | m + 1 => nested limit (.single (m + 1)) (descend limit m)

/-- Runs an operation and records its outcome; it always succeeds. -/
def recorded (operation : Reading CursorAnswer) : Reading CursorRecord := fun c =>
  match operation c with
  | .ok answer c => .ok (.step (.ok answer) c.consumed none) c
  | .error fault c => .ok (.step (.error fault) c.consumed none) c

/-- Opens a level around `block`, which gives records and perhaps a fault, and
records the outcome; it always succeeds. -/
def recordedBlock (limit : Nat) (span : Span)
    (block : Reading (List CursorRecord × Option Fault)) : Reading CursorRecord := fun c =>
  match nested limit span block c with
  | .ok (inner, none) c => .ok (.step (.ok .done) c.consumed (some inner)) c
  | .ok (inner, some fault) c => .ok (.step (.error fault) c.consumed (some inner)) c
  | .error fault c => .ok (.step (.error fault) c.consumed (some [])) c

end Reading

open Reading

mutual

/-- Runs one operation. -/
def CursorStep.run (limit : Nat) : CursorStep → Reading CursorRecord
  | .atEnd => recorded do return .flag (← Reading.atEnd)
  | .advance => recorded do return .lexeme? (← Reading.advance)
  | .nextItem => recorded do return .lexeme (← Reading.nextItem)
  | .expectToken token => recorded do return .lexeme (← Reading.expectToken token)
  | .expectOperator => recorded do return .operator (← Reading.expectOperator)
  | .openGroup => recorded do
    Reading.openGroup
    return .done
  | .closeGroup span => recorded do
    Reading.closeGroup span
    return .done
  | .descend levels => recorded do
    Reading.descend limit levels
    return .levels levels
  | .nested span body => recordedBlock limit span (CursorStep.runBlock limit body)

/-- Runs the operations of a block up to the first one that fails, and gives
their records and the fault. -/
def CursorStep.runBlock (limit : Nat) :
    List CursorStep → Reading (List CursorRecord × Option Fault)
  | [] => return ([], none)
  | step :: steps => do
    let record ← step.run limit
    match record.outcome with
    | .error fault => return ([record], some fault)
    | .ok _ => do
      let (records, fault?) ← CursorStep.runBlock limit steps
      return (record :: records, fault?)

end

/-- Runs the operations of a program, whether they fail or not, and gives their
records. -/
def CursorStep.runProgram (limit : Nat) : List CursorStep → Reading (List CursorRecord)
  | [] => return []
  | step :: steps => do
    let record ← step.run limit
    let records ← CursorStep.runProgram limit steps
    return record :: records

end Reckoner
