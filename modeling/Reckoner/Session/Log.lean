import Reckoner.Session.Command
import Reckoner.Session.Description
import Reckoner.Session.Transcript

/-!
# Records for the log

The program leaves records of how it is run: of what it found when it started,
of the files that it could not use, and of the commands it carries out.  Which
of them are written, and in which form, is up to a logger.

The records that single tokens and evaluations leave are not among them; they
are all for debugging.
-/

namespace Reckoner

/-! ## Records -/

/-- How grave a record is. -/
inductive Severity where
  | error
  | warning
  | info
  | debug
  | trace
deriving DecidableEq, Repr

/-- A record for the log. -/
inductive LogRecord where
  /-- The file of variables could not be loaded. -/
  | variablesNotLoaded (explanation : String)
  /-- The settings have been read. -/
  | settingsRead (settings : Settings)
  /-- The arguments have been read. -/
  | argumentsRead (arguments : List String)
  /-- A batch begins. -/
  | batchBegins (n : Notation) (fileName : String)
  /-- An interactive session begins. -/
  | sessionBegins
  /-- The file of the history could not be read. -/
  | historyNotLoaded (fileName : String) (fault : FileFault)
  /-- An expression of an interactive session is faulty. -/
  | rejected (expression : String) (fault : Fault)
  /-- The file of the history could not be written. -/
  | historyNotSaved (explanation : String)
deriving DecidableEq

namespace LogRecord

/-- How grave each record is. -/
def severity : LogRecord → Severity
  | historyNotSaved _ => .error
  | batchBegins .. | sessionBegins => .info
  | variablesNotLoaded _ | settingsRead _ | argumentsRead _ | historyNotLoaded .. | rejected .. =>
    .debug

/-- The name that the program goes by. -/
def programName : String := "notation-calc"

/-- The part of the program that a record comes from. -/
def target : LogRecord → String
  | settingsRead _ => "notation_calc::config"
  | _ => "notation_calc"

/-- What a record says.  The arguments are shown behind the name of the program. -/
def message : LogRecord → String
  | variablesNotLoaded explanation => "dotenvy load with error " ++ explanation
  | settingsRead settings => settings.describe
  | argumentsRead arguments => describeList quoted (programName :: arguments)
  | batchBegins n fileName => "Read " ++ n.name ++ " expressions from " ++ fileName
  | sessionBegins => "Running in REPL mode"
  | historyNotLoaded fileName fault =>
    "history not loaded from " ++ fileName ++ ": " ++ fault.message
  | rejected expression fault => "rejected " ++ quoted expression ++ ": " ++ fault.describe
  | historyNotSaved explanation => explanation

end LogRecord

/-! ## Loggers -/

/-- What a logger writes to the error output. -/
structure Logger where
  /-- What it writes when it is set up. -/
  opening : String
  /-- What it writes for a record. -/
  entry : LogRecord → String

namespace Logger

/-- The variable that says which records are written. -/
def variableName : String := "RUST_LOG"

/-- What is written when a logger is set up. -/
def setUp (logger : Logger) : Transcript := ⟨"", logger.opening⟩

/-- What is written for a record. -/
def log (logger : Logger) (record : LogRecord) : Transcript := ⟨"", logger.entry record⟩

/-- What is written for several records. -/
def logAll (logger : Logger) (records : List LogRecord) : Transcript :=
  .join (records.map logger.log)

end Logger

end Reckoner
