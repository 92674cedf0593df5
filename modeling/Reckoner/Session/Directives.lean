import Reckoner.Session.Log
import Reckoner.Text.Blank

/-!
# Directives for the log

Directives say which records are logged.  A directive is a level, or the start
of the names of targets, or such a start and a level behind `=`; records are
logged up to the level.  Of the directives for a target the last one with the
longest start counts, and without any directive errors alone are logged.

Directives stand between commas.  What is no directive is passed over with a
warning.  A slash ends them, and a pattern for messages follows it, which is not
looked at.
-/

namespace Reckoner

/-- The pieces of a text between marks. -/
def pieces (mark : Char) : List Char → List (List Char)
  | [] => [[]]
  | c :: rest =>
    if c = mark then [] :: pieces mark rest
    else
      match pieces mark rest with
      | [] => [[c]]
      | piece :: others => (c :: piece) :: others

namespace Severity

/-- The number of a severity; the graver, the smaller. -/
def rank : Severity → Nat
  | error => 1
  | warning => 2
  | info => 3
  | debug => 4
  | trace => 5

/-- The label of a severity, five characters wide. -/
def label : Severity → String
  | error => "ERROR"
  | warning => "WARN "
  | info => "INFO "
  | debug => "DEBUG"
  | trace => "TRACE"

end Severity

/-- What is logged of the targets whose names start with a text. -/
structure Directive where
  start : List Char
  /-- The number of the least grave severity that is logged; zero if none is. -/
  limit : Nat
deriving DecidableEq, Repr

namespace Directive

/-- The limit that a level stands for. -/
def readLimit? (level : List Char) : Option Nat :=
  match String.ofList (level.map Char.toLower) with
  | "off" => some 0
  | "error" => some Severity.error.rank
  | "warn" => some Severity.warning.rank
  | "info" => some Severity.info.rank
  | "debug" => some Severity.debug.rank
  | "trace" => some Severity.trace.rank
  | _ => none

/-- The directive that a text stands for, or the part of it that is wrong. -/
def read (text : List Char) : Except (List Char) Directive :=
  match pieces '=' text with
  | [only] =>
    match readLimit? only with
    | some limit => .ok ⟨[], limit⟩
    | none => .ok ⟨only, Severity.trace.rank⟩
  | [start, level] =>
    let level := trimChars level
    if level.isEmpty then .ok ⟨start, Severity.trace.rank⟩
    else
      match readLimit? level with
      | some limit => .ok ⟨start, limit⟩
      | none => .error level
  | _ => .error text

/-- The limit for a target. -/
def limitFor (directives : List Directive) (target : List Char) : Nat :=
  if directives.isEmpty then Severity.error.rank
  else
    let counting := directives.foldl (fun counting d =>
      if d.start.isPrefixOf target ∧ counting.all fun c => c.start.length ≤ d.start.length then
        some d
      else counting) (none : Option Directive)
    counting.elim 0 limit

end Directive

/-- The warning that a text is passed over. -/
def directiveWarning (text : List Char) : String :=
  "warning: invalid logging spec '" ++ String.ofList text ++ "', ignoring it"

/-- The directives and the warnings that a value gives. -/
def readDirectives (value : String) : List Directive × List String :=
  match pieces '/' value.toList with
  | list :: parts =>
    if 1 < parts.length then
      ([], [directiveWarning value.toList ++ " (too many '/'s)"])
    else
      let readings := (((pieces ',' list).map trimChars).filter (· ≠ [])).map Directive.read
      (readings.filterMap fun | .ok d => some d | .error _ => none,
        readings.filterMap fun | .ok _ => none | .error text => some (directiveWarning text))
  | [] => ([], [])

namespace Logger

/-- The written form of a record: when and where it was made, how grave it is,
and the message, with its further lines moved in. -/
def recordText (time : Option String) (record : LogRecord) : String :=
  let message := record.message.toList.flatMap fun c =>
    if c = '\n' then ['\n', ' ', ' ', ' ', ' '] else [c]
  "[" ++ time.elim "" (· ++ " ") ++ record.severity.label ++ " " ++ record.target ++ "] " ++
    String.ofList message ++ "\n"

/-- The logger that follows directives, if there are any. -/
def ofDirectives (time value : Option String) : Logger :=
  let (directives, warnings) := readDirectives (value.getD "")
  { opening := String.join (warnings.map (· ++ "\n"))
    entry := fun record =>
      if record.severity.rank ≤ Directive.limitFor directives record.target.toList then
        recordText time record
      else "" }

end Logger

end Reckoner
