import Reckoner.Session.Invocation

/-!
# The program

Finds the arguments, variables and files that a command needs, carries the
command out, and writes what it gives.  Interactive sessions write after every
line.
-/

namespace Reckoner

/-- Why a file cannot be read, by what the system says. -/
def fileFaultOf : IO.Error → FileFault
  | .inappropriateType _ _ "not a directory" => .notADirectory
  | .inappropriateType .. => .directory
  | .invalidArgument .. => .nameTooLong
  | .permissionDenied .. => .forbidden
  | _ => .missing

/-- The text of a file, or why it cannot be read. -/
def readText (fileName : String) : IO (Except FileFault String) := do
  try
    let bytes ← IO.FS.readBinFile fileName
    return (String.fromUTF8? bytes).elim (.error .notText) .ok
  catch error =>
    return .error (fileFaultOf error)

/-- Writes a transcript. -/
def write (transcript : Transcript) : IO Unit := do
  IO.print transcript.out
  (← IO.getStdout).flush
  IO.eprint transcript.err

/-- Carries an interactive session on until it or the input ends. -/
partial def converse (console : Console) (session : Session) : IO Session := do
  if session.place = .ended then return session
  let line ← (← IO.getStdin).getLine
  let (transcript, session) :=
    if line.isEmpty then session.close console
    else session.step console ((linesOf line).headD "")
  write transcript
  converse console session

/-- Writes the file that a history is kept in. -/
def keep (console : Console) : Option (String × String) → IO Unit
  | none => return
  | some (fileName, text) =>
    try IO.FS.writeFile fileName text
    catch e => write (console.log (.historyNotSaved (toString e)))

/-- Writes an outcome. -/
def deliver (outcome : Outcome) : IO UInt32 := do
  write outcome.transcript
  return outcome.status.toUInt32

end Reckoner

open Reckoner

/-- The entry point.  Records are written without the time. -/
def main (arguments : List String) : IO UInt32 := do
  let libraries := Libraries.standard none
  let variableFile ← readText Invocation.variableFileName
  let names := Logger.variableName :: Console.terminalVariable :: Settings.variableNames ++
    VariableFile.mentioned (variableFile.toOption.getD "")
  let known ← names.filterMapM fun name => do
    return (← IO.getEnv name).map fun value => (name, value)
  let start : Invocation := {
    arguments
    environment := (known.lookup ·)
    fileText := fun _ => variableFile
    input := [] }
  write (start.preamble libraries)
  match start.plan libraries with
  | .error fault => deliver (Invocation.refuse fault)
  | .ok (settings, command) =>
    let console := start.console libraries settings
    let text ← match command.fileName? settings with
      | some name => readText name
      | none => pure (.error .missing)
    let invocation := { start with fileText := fun _ => text }
    match command with
    | .interactive => do
      write (console.logger.logAll (invocation.sessionRecords settings))
      let (transcript, session) := Session.start console
      write transcript
      let session ← converse console session
      keep console (invocation.savedHistory console session)
      return 0
    | command => deliver (invocation.perform console command)
