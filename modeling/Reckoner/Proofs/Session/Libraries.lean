import Reckoner.Session.Libraries

/-!
# What is relied on of libraries

Statements about whole runs hold with any libraries that do what is said of them here.  A
logger to which no directives are given writes errors alone (`Libraries.QuietByDefault`).
An editor yields a line without backspaces as it was typed, and does not show the request
for it, unless the terminal is one on which lines cannot be edited (`Editor.ReadsPipes`).
The libraries that the program is run with do this.
-/

namespace Reckoner

/-! ## Loggers -/

/-- A quiet logger writes nothing but errors. -/
structure Logger.Quiet (logger : Logger) : Prop where
  opening_eq : logger.opening = ""
  entry_eq : ∀ record : LogRecord, record.severity ≠ .error → logger.entry record = ""

/-- Where the variable of the directives is not set, the logger is quiet. -/
def Libraries.QuietByDefault (libraries : Libraries) : Prop :=
  ∀ values, values Logger.variableName = none → (libraries.logger values).Quiet

namespace Logger.Quiet

variable {logger : Logger} {record : LogRecord}

theorem setUp_eq (h : logger.Quiet) : logger.setUp = .empty := by
  rw [setUp, h.opening_eq]
  rfl

theorem log_eq (h : logger.Quiet) (hrecord : record.severity ≠ .error) :
    logger.log record = .empty := by
  rw [log, h.entry_eq record hrecord]
  rfl

theorem logAll_eq (h : logger.Quiet) {records : List LogRecord}
    (hrecords : ∀ record ∈ records, record.severity ≠ .error) : logger.logAll records = .empty := by
  induction records with
  | nil => rfl
  | cons record records ih =>
    obtain ⟨hrecord, hrest⟩ := List.forall_mem_cons.1 hrecords
    rw [logAll, List.map_cons, Transcript.join_cons, h.log_eq hrecord, Transcript.empty_append]
    exact ih hrest

end Logger.Quiet

/-- Only errors are as grave as errors. -/
theorem Severity.not_rank_le_error {severity : Severity} (h : severity ≠ .error) :
    ¬ severity.rank ≤ error.rank := by
  cases severity with
  | error => exact absurd rfl h
  | _ => decide

/-- Without directives a logger is quiet. -/
theorem Logger.quiet_ofDirectives_none (time : Option String) : (ofDirectives time none).Quiet where
  opening_eq := rfl
  entry_eq _ hrecord := if_neg (Severity.not_rank_le_error hrecord)

/-! ## Editors -/

/-- What an editor does when its input is no terminal. -/
structure Editor.ReadsPipes (editor : Editor) : Prop where
  asks_eq : ∀ terminal, canEditOn terminal = true → ∀ request, editor.asks terminal request = ""
  yields_eq : ∀ line : String, backspace ∉ line.toList → editor.yields line = line

theorem Editor.readsPipes_standard : standard.ReadsPipes where
  asks_eq _ hterminal _ := if_pos hterminal
  yields_eq _ := typedLine_of_not_mem

/-- A console is silent when nothing is written but what a command itself writes. -/
structure Console.Silent (console : Console) : Prop where
  logger_quiet : console.logger.Quiet
  ask_eq : ∀ request, console.ask request = .empty

/-- Where lines can be edited, the request for a line is not shown. -/
theorem Console.silent_of_canEditOn {console : Console} (hlogger : console.logger.Quiet)
    (heditor : console.editor.ReadsPipes)
    (hterminal : Editor.canEditOn console.terminal = true) : console.Silent where
  logger_quiet := hlogger
  ask_eq request := by
    rw [ask, heditor.asks_eq _ hterminal]
    rfl

/-! ## The libraries that the program is run with -/

theorem Libraries.quietByDefault_standard (time : Option String) :
    (standard time).QuietByDefault := by
  intro values hunset
  show (Logger.ofDirectives time (values Logger.variableName)).Quiet
  rw [hunset]
  exact Logger.quiet_ofDirectives_none time

end Reckoner
