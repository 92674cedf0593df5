import Reckoner.Session.Directives
import Reckoner.Session.History
import Reckoner.Session.Typed
import Reckoner.Settings.VariableFile

/-!
# What is left to libraries

Three things the program does not do itself.  It has the file of variables
loaded, it hands its records to a logger, and it has an editor ask for lines,
read them and keep them in a history.  What it does otherwise is the same with
any libraries; `Libraries.standard` are those that it is run with.
-/

namespace Reckoner

/-- The variables after the file of variables has been loaded. -/
structure LoadedVariables where
  /-- The values of the variables. -/
  valueOf? : String → Option String
  /-- Why the file could not be loaded, if it could not. -/
  fault? : Option String

/-- An editor for lines.  Its input is no terminal, so that it shows no more than
the request for a line.  It takes every line into the history. -/
structure Editor where
  /-- What it writes to ask for a line, given the kind of terminal and the
  request. -/
  asks : Option String → String → String
  /-- What it yields for a line of the input. -/
  yields : String → String
  /-- The text that the file of the history gets, if it is to be written, given
  the text that it had and the lines that were entered. -/
  historyText? : Option String → List String → Option String

/-- The libraries that the program works with. -/
structure Libraries where
  /-- Loads the file of variables into the variables of the environment. -/
  load : (String → Option String) → Except FileFault String → LoadedVariables
  /-- The logger for the variables. -/
  logger : (String → Option String) → Logger
  /-- The editor. -/
  editor : Editor

/-! ## The libraries that the program is run with -/

namespace LoadedVariables

/-- Loads a file of variables.  A line of no known form ends it, without an
explanation here. -/
def ofFile (environment : String → Option String) (file : Except FileFault String) :
    LoadedVariables where
  valueOf? := VariableFile.valueOf? environment file.toOption
  fault? :=
    match file with
    | .ok _ => none
    | .error .missing | .error .directory => some "path not found"
    | .error fault => some fault.message

end LoadedVariables

namespace Editor

/-- The kinds of terminals on which lines cannot be edited. -/
def plainTerminals : List String := ["dumb", "cons25", "emacs"]

/-- Whether lines can be edited on a kind of terminal; the case of ASCII letters
does not matter. -/
def canEditOn (terminal : Option String) : Bool :=
  terminal.all fun name => !plainTerminals.contains (String.ofList (name.toList.map Char.toLower))

/-- The editor that carries out backspaces and keeps the history in a file.  It
shows the request for a line where lines cannot be edited. -/
def standard : Editor where
  asks terminal request := if canEditOn terminal then "" else request
  yields := typedLine
  historyText? := History.textAfter?

end Editor

/-- The libraries that the program is run with.  The time is that of the records,
if they carry one. -/
def Libraries.standard (time : Option String) : Libraries where
  load := LoadedVariables.ofFile
  logger := fun values => .ofDirectives time (values Logger.variableName)
  editor := .standard

/-! ## Consoles -/

/-- What a command works with. -/
structure Console where
  settings : Settings
  logger : Logger
  editor : Editor
  /-- The kind of terminal, if it is told. -/
  terminal : Option String

namespace Console

/-- The variable that tells the kind of terminal. -/
def terminalVariable : String := "TERM"

/-- What is written for a record. -/
def log (console : Console) (record : LogRecord) : Transcript := console.logger.log record

/-- What is written to ask for a line. -/
def ask (console : Console) (request : String) : Transcript :=
  ⟨console.editor.asks console.terminal request, ""⟩

end Console

end Reckoner
