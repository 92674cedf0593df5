import Reckoner.Menu
import Reckoner.Session.Libraries

/-!
# Interactive sessions

A session reads lines.  At the menu a line chooses a notation or leaves; a line
that is no choice gets an explanation, and the menu is shown again.  With a
notation chosen, each line is an expression whose report is written, until
`quit` or `q` or the end of the input leads back to the menu.  When the settings
fix the notation there is no menu, and leaving the expressions ends the session.

Before each line the editor asks for it, and each expression is entered in the
history.
-/

namespace Reckoner

/-- Where a session is. -/
inductive SessionPlace where
  /-- The menu has been shown and waits for a choice. -/
  | menu
  /-- Expressions of a notation are read. -/
  | expressions (n : Notation)
  /-- Nothing more is read. -/
  | ended
deriving DecidableEq, Repr

/-- A session between two lines. -/
structure Session where
  place : SessionPlace
  /-- The lines entered in the history, newest first. -/
  entered : List String
deriving DecidableEq, Repr

namespace Session

variable (console : Console)

/-! ## Moves between places -/

/-- The request for an expression. -/
def request (n : Notation) : String := "Enter " ++ n.name ++ " expression> "

/-- What is shown at a place before a line is read. -/
def shown : SessionPlace → Transcript
  | .menu => .outLine Menu.text ++ console.ask Menu.prompt
  | .expressions n => console.ask (request n)
  | .ended => .empty

/-- Comes to a place. -/
def enter (place : SessionPlace) (entered : List String) : Transcript × Session :=
  (shown console place, ⟨place, entered⟩)

/-- The beginning of a session. -/
def start : Transcript × Session :=
  match console.settings.fixedNotation with
  | some n => enter console (.expressions n) []
  | none => enter console .menu []

/-- Leaves the expressions: for the menu, or for good when the notation is
fixed. -/
def leaveExpressions (entered : List String) : Transcript × Session :=
  match console.settings.fixedNotation with
  | some _ => enter console .ended entered
  | none => enter console .menu entered

/-! ## Lines -/

/-- What a line at the menu does. -/
def menuLine (entered : List String) (line : String) : Transcript × Session :=
  match Menu.read line with
  | .ok (.evaluate n) => enter console (.expressions n) entered
  | .ok .quit => enter console .ended entered
  | .error fault =>
    let (menu, session) := enter console .menu entered
    (.outLine (fault.message ++ "\n") ++ menu, session)

/-- Whether an expression asks to leave. -/
def asksToLeave (expression : String) : Bool := expression = "quit" || expression = "q"

/-- What evaluating an expression writes: the report and, when the expression is
faulty, a record of that. -/
def evaluation (n : Notation) (expression : String) : Transcript :=
  report console.settings.color n expression ++
    match n.evaluate expression with
    | .ok _ => .empty
    | .error fault => console.log (.rejected expression fault)

/-- What a line does where expressions of `n` are read. -/
def expressionLine (n : Notation) (entered : List String) (line : String) :
    Transcript × Session :=
  let expression := trim line
  if expression.isEmpty then
    enter console (.expressions n) entered
  else
    let entered := expression :: entered
    if asksToLeave expression then leaveExpressions console entered
    else
      let (request, session) := enter console (.expressions n) entered
      (evaluation console n expression ++ request, session)

/-- What a line does. -/
def step (session : Session) (line : String) : Transcript × Session :=
  match session.place with
  | .menu => menuLine console session.entered (console.editor.yields line)
  | .expressions n => expressionLine console n session.entered (console.editor.yields line)
  | .ended => (.empty, session)

/-- What the end of the input does: it leaves the expressions, if any are being
read, and then the menu. -/
def close (session : Session) : Transcript × Session :=
  match session.place with
  | .expressions _ =>
    let (transcript, session) := leaveExpressions console session.entered
    (transcript, { session with place := .ended })
  | _ => (.empty, { session with place := .ended })

/-! ## Whole sessions -/

/-- Reads lines up to the end of the input, after what has been `written`. -/
def readLines (written : Transcript) (session : Session) : List String → Transcript × Session
  | [] =>
    let (transcript, session) := session.close console
    (written ++ transcript, session)
  | line :: lines =>
    let (transcript, session) := session.step console line
    session.readLines (written ++ transcript) lines

/-- A whole session. -/
def run (lines : List String) : Transcript × Session :=
  let (transcript, session) := start console
  session.readLines console transcript lines

end Session

end Reckoner
