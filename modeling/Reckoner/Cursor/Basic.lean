import Reckoner.Fault

/-!
# Cursors over tokens

A cursor is a place in a list of lexemes, together with the counts that the
notations keep while they read: how many lexemes have been consumed, how many
groups have been opened and not closed, and how many nested levels are open.

A reading moves a cursor and gives a result or a fault.  A reading that fails
still leaves the cursor where it came to.
-/

namespace Reckoner

/-- A place in a list of lexemes. -/
structure Cursor where
  /-- The lexemes ahead. -/
  items : List Lexeme
  /-- The number of lexemes already consumed. -/
  consumed : Nat
  /-- The number of groups opened and not yet closed. -/
  openGroups : Nat
  /-- The number of nested levels open at this place. -/
  depth : Nat
deriving DecidableEq

namespace Cursor

/-- The cursor at the start of a list of lexemes. -/
def ofList (items : List Lexeme) : Cursor := ⟨items, 0, 0, 0⟩

end Cursor

/-- A computation that moves a cursor. -/
abbrev Reading (α : Type) := EStateM Fault Cursor α

namespace Reading

/-- The largest number of levels that may be nested in each other. -/
def defaultLimit : Nat := 256

/-! ## Lexemes -/

/-- Whether no lexeme is ahead. -/
def atEnd : Reading Bool := do return (← get).items.isEmpty

/-- Consumes the lexeme ahead, if there is one. -/
def advance : Reading (Option Lexeme) := fun c =>
  match c.items with
  | [] => .ok none c
  | item :: items => .ok (some item) { c with items := items, consumed := c.consumed + 1 }

/-- Consumes the lexeme ahead, which has to be there. -/
def nextItem : Reading Lexeme := do
  match ← advance with
  | some item => return item
  | none => throw .unexpectedEnd

/-- Consumes the lexeme ahead, which has to agree with `token`. -/
def expectToken (token : Token) : Reading Lexeme := do
  let item ← nextItem
  if item.token.agrees token then return item
  else throw (.unexpectedToken item.token item.span)

/-- Consumes the lexeme ahead, which has to be an operator. -/
def expectOperator : Reading Operator := do
  let item ← nextItem
  match item.token with
  | .operator op => return op
  | token => throw (.unexpectedToken token item.span)

/-! ## Groups and levels -/

/-- Notes that a group has been opened. -/
def openGroup : Reading Unit :=
  modify fun c => { c with openGroups := c.openGroups + 1 }

/-- Notes that a group has been closed by the parenthesis at `span`, which
fails when no group is open. -/
def closeGroup (span : Span) : Reading Unit := fun c =>
  match c.openGroups with
  | 0 => .error (.unbalancedParen span) c
  | n + 1 => .ok () { c with openGroups := n }

/-- Runs `body` one level deeper, unless `limit` levels are open already; `span`
is the place that opens the level.  The level is closed again whether `body`
succeeds or fails. -/
def nested (limit : Nat) (span : Span) (body : Reading α) : Reading α := fun c =>
  if c.depth < limit then
    match body { c with depth := c.depth + 1 } with
    | .ok a c => .ok a { c with depth := c.depth - 1 }
    | .error e c => .error e { c with depth := c.depth - 1 }
  else
    .error (.tooDeep span) c

/-- A level is refused exactly when `limit` levels are open, and the cursor then
stays as it is. -/
theorem nested_of_le {limit : Nat} {c : Cursor} (h : limit ≤ c.depth) (span : Span)
    (body : Reading α) : nested limit span body c = .error (.tooDeep span) c := by
  rw [nested, if_neg (by omega)]

/-- Below the limit the body runs one level deeper. -/
theorem nested_of_lt {limit : Nat} {c : Cursor} (h : c.depth < limit) (span : Span)
    (body : Reading α) :
    nested limit span body c =
      match body { c with depth := c.depth + 1 } with
      | .ok a c => .ok a { c with depth := c.depth - 1 }
      | .error e c => .error e { c with depth := c.depth - 1 } := by
  rw [nested, if_pos h]

/-! ## Whole expressions -/

/-- Accepts `value` when no lexeme is ahead and no group is open. -/
def finish (value : Number) : Reading Number := do
  match ← advance with
  | some item => throw (.unfinished item.token item.span)
  | none =>
    match (← get).openGroups with
    | 0 => return value
    | n + 1 => throw (.unclosedParen (n + 1))

/-- Reads a non-empty list of lexemes to its end by means of `expression`. -/
def evaluate (expression : Reading Number) (items : List Lexeme) : Except Fault Number :=
  let whole : Reading Number := do
    if ← atEnd then throw .empty
    finish (← expression)
  match whole (.ofList items) with
  | .ok value _ => .ok value
  | .error fault _ => .error fault

end Reading

end Reckoner
