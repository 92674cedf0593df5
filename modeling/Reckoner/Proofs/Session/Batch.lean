import Reckoner.Proofs.Session.Libraries
import Reckoner.Proofs.Text.Lines
import Reckoner.Session.Invocation

/-!
# A batch is its expressions, one by one

Carrying out a batch does what carrying out the evaluation of each of its
expressions does, in the order of the lines, and then tells how many of them
were faulty.  A run also writes what its logger has to say, and that is not one
by one: a batch leaves a record that no single evaluation leaves, and a logger is
set up once for all expressions.  So no directives may be given for the log.

Main statement: `outcome_batch`.
-/

namespace Reckoner

/-! ## Reports and validity -/

/-- An expression is valid when it has a value. -/
theorem isValid_eq_isOk (n : Notation) (expression : String) :
    isValid n expression = (n.evaluate expression).isOk := by
  rw [isValid]
  cases n.evaluate expression <;> rfl

namespace Batch

variable (color : Bool) (n : Notation)

/-! ## One line -/

/-- A blank line changes nothing. -/
theorem readLine_blank (batch : Batch) {line : String} (h : trim line = "") :
    batch.readLine color n line = batch := by
  rw [readLine, h]
  rfl

/-- A line with an expression adds the report on it, and is counted. -/
theorem readLine_expression (batch : Batch) {line : String} (h : trim line ≠ "") :
    batch.readLine color n line =
      ⟨batch.transcript ++ report color n (trim line), batch.total + 1,
        batch.faulty + if !(n.evaluate (trim line)).isOk then 1 else 0⟩ := by
  rw [readLine, if_neg (by simpa using h), isValid_eq_isOk]
  cases (n.evaluate (trim line)).isOk <;> rfl

/-! ## All lines -/

/-- The expressions of some lines are the lines, trimmed, without the empty ones. -/
def expressions (lines : List String) : List String := (lines.map trim).filter (· ≠ "")

@[simp] theorem expressions_nil : expressions [] = [] := rfl

theorem expressions_blank {line : String} (h : trim line = "") (lines : List String) :
    expressions (line :: lines) = expressions lines := by
  simp [expressions, h]

theorem expressions_expression {line : String} (h : trim line ≠ "") (lines : List String) :
    expressions (line :: lines) = trim line :: expressions lines := by
  simp [expressions, h]

/-- The number of expressions that have no value. -/
def countFaulty (expressions : List String) : Nat :=
  expressions.countP fun expression => !(n.evaluate expression).isOk

theorem countFaulty_cons (expression : String) (expressions : List String) :
    countFaulty n (expression :: expressions) =
      countFaulty n expressions + if !(n.evaluate expression).isOk then 1 else 0 :=
  List.countP_cons

/-- Lines add the reports on their expressions, in order, and count them. -/
theorem foldl_readLine (lines : List String) (batch : Batch) :
    lines.foldl (readLine color n) batch =
      ⟨batch.transcript ++ .join ((expressions lines).map (report color n)),
        batch.total + (expressions lines).length,
        batch.faulty + countFaulty n (expressions lines)⟩ := by
  induction lines generalizing batch with
  | nil => exact congrArg (Batch.mk · _ _) (Transcript.append_empty _).symm
  | cons line lines ih =>
    rw [List.foldl_cons, ih]
    by_cases h : trim line = ""
    · rw [readLine_blank color n batch h, expressions_blank h]
    · rw [readLine_expression color n batch h, expressions_expression h, List.map_cons,
        Transcript.join_cons, Transcript.append_assoc, List.length_cons, countFaulty_cons]
      rw [Batch.mk.injEq]
      exact ⟨rfl, by dsimp only; omega, by dsimp only; omega⟩

/-! ## The closing line -/

/-- The closing line does not go to the ordinary output. -/
theorem out_summary (batch : Batch) : batch.summary.out = "" := by
  rw [summary]
  split <;> rfl

/-- The closing line is written when an expression was faulty. -/
theorem err_summary (batch : Batch) :
    batch.summary.err =
      if batch.faulty = 0 then ""
      else natText batch.faulty ++ " of " ++ natText batch.total ++
        " expressions were invalid\n" := by
  rw [summary]
  split
  · rfl
  · simp [Transcript.errLine, String.append_assoc]

/-! ## The whole batch -/

/-- A batch is closed with the reports on the expressions of its lines and with
their numbers. -/
theorem run_eq {text : String} {lines : List String}
    (h : Lines text.toList (lines.map String.toList)) :
    run color n text =
      close ⟨.join ((expressions lines).map (report color n)), (expressions lines).length,
        countFaulty n (expressions lines)⟩ := by
  rw [run, lines_iff_linesOf.mp h, foldl_readLine, start, Transcript.empty_append, Nat.zero_add,
    Nat.zero_add]

end Batch

/-! ## Commands -/

namespace Command

variable {n : Notation} {name : String}

/-- A name of a notation and one more argument are read as they stand. -/
theorem readOperands_eq_ok (hname : Notation.ofName? name = some n) (what operand : String) :
    readOperands what [name, operand] = .ok (n, operand) := by
  unfold readOperands
  simp only [hname]

theorem ofArguments_evaluate (hname : Notation.ofName? name = some n) (expression : String) :
    ofArguments ["-e", name, expression] = .ok (.evaluate n expression) := by
  rw [ofArguments, if_neg (by decide), if_pos rfl, readOperands_eq_ok hname]
  rfl

theorem ofArguments_batch (hname : Notation.ofName? name = some n) (fileName : String) :
    ofArguments ["-f", name, fileName] = .ok (.batch n fileName) := by
  rw [ofArguments, if_neg (by decide), if_neg (by decide), if_pos rfl, readOperands_eq_ok hname]
  rfl

end Command

/-! ## Outcomes -/

namespace Outcome

variable (outcome : Outcome)

@[simp] theorem after_empty : outcome.after .empty = outcome := by
  rw [after, Transcript.empty_append]

end Outcome

namespace Invocation

variable {libraries : Libraries} {i : Invocation} {settings : Settings} {n : Notation}
  {name fileName text : String}

/-- The records before the command are not grave. -/
theorem severity_of_mem_openingRecords {record : LogRecord}
    (h : record ∈ i.openingRecords libraries) : record.severity = .debug := by
  rcases List.mem_append.1 h with hloading | hreading
  · obtain ⟨explanation, -, rfl⟩ := Option.map_eq_some_iff.1 (Option.mem_toList.1 hloading)
    rfl
  · cases hsettings : i.settings libraries with
    | ok settings =>
      rw [hsettings] at hreading
      rcases List.mem_pair.1 hreading with rfl | rfl <;> rfl
    | error fault =>
      rw [hsettings] at hreading
      cases hreading

/-- Without directives for the log, nothing is written before the command. -/
theorem preamble_eq_empty (hquiet : libraries.QuietByDefault)
    (hunset : i.lookup? libraries Logger.variableName = none) : i.preamble libraries = .empty := by
  have hlogger := hquiet _ hunset
  have hrecords : ∀ record ∈ i.openingRecords libraries, record.severity ≠ .error :=
    fun record hrecord => by rw [severity_of_mem_openingRecords hrecord]; decide
  rw [preamble, hlogger.setUp_eq, hlogger.logAll_eq hrecords, Transcript.empty_append]

/-- The outcome with other arguments, everything else being as it is found. -/
def outcomeWith (i : Invocation) (libraries : Libraries) (arguments : List String) : Outcome :=
  outcome { i with arguments } libraries

/-- With settings and a command, the outcome is that of the command, after what there is
before it. -/
theorem outcomeWith_eq_perform {arguments : List String} {command : Command}
    (hsettings : i.settings libraries = .ok settings)
    (hcommand : Command.ofArguments arguments = .ok command) :
    i.outcomeWith libraries arguments =
      (i.perform (i.console libraries settings) command).after
        (preamble { i with arguments } libraries) := by
  have hplan : ({ i with arguments } : Invocation).plan libraries = .ok (settings, command) := by
    unfold plan
    rw [show ({ i with arguments } : Invocation).settings libraries = .ok settings from hsettings]
    exact congrArg (Except.map _) hcommand
  rw [outcomeWith, outcome, hplan]
  rfl

section Quiet

variable (hquiet : libraries.QuietByDefault)
  (hunset : i.lookup? libraries Logger.variableName = none)
include hquiet hunset

/-- Without directives for the log, the outcome is that of the command alone. -/
theorem outcomeWith_eq_perform_of_unset {arguments : List String} {command : Command}
    (hsettings : i.settings libraries = .ok settings)
    (hcommand : Command.ofArguments arguments = .ok command) :
    i.outcomeWith libraries arguments = i.perform (i.console libraries settings) command := by
  have hpreamble : preamble { i with arguments } libraries = .empty :=
    preamble_eq_empty hquiet hunset
  rw [outcomeWith_eq_perform hsettings hcommand, hpreamble, Outcome.after_empty]

/-- The outcome of evaluating one expression. -/
theorem outcomeWith_evaluate (hsettings : i.settings libraries = .ok settings)
    (hname : Notation.ofName? name = some n) (expression : String) :
    i.outcomeWith libraries ["-e", name, expression] =
      ⟨report settings.color n expression, if isValid n expression then 0 else 1, none⟩ :=
  outcomeWith_eq_perform_of_unset hquiet hunset hsettings
    (Command.ofArguments_evaluate hname expression)

/-- The outcome of a batch whose file can be read. -/
theorem outcomeWith_batch (hsettings : i.settings libraries = .ok settings)
    (hname : Notation.ofName? name = some n) (hfile : i.fileText fileName = .ok text) :
    i.outcomeWith libraries ["-f", name, fileName] =
      ⟨(Batch.run settings.color n text).1, (Batch.run settings.color n text).2, none⟩ := by
  have hlog : (i.console libraries settings).log (.batchBegins n fileName) = .empty :=
    (hquiet _ hunset).log_eq (show Severity.info ≠ .error by decide)
  rw [outcomeWith_eq_perform_of_unset hquiet hunset hsettings
    (Command.ofArguments_batch hname fileName)]
  simp only [perform, hfile, hlog, Outcome.after_empty]
  rfl

end Quiet

/-- A batch leaves behind what its expressions leave behind, one by one.  On either output
stands what they write there one after the other, and on the error output after that, if
any of them is faulty, how many of them are.  The status is 1 if any is faulty and 0
otherwise. -/
structure OneByOne (n : Notation) (expressions : List String) (single : String → Outcome)
    (batch : Outcome) : Prop where
  out_eq : batch.transcript.out =
    String.join (expressions.map fun expression => (single expression).transcript.out)
  err_eq : batch.transcript.err =
    String.join (expressions.map fun expression => (single expression).transcript.err) ++
      if Batch.countFaulty n expressions = 0 then ""
      else natText (Batch.countFaulty n expressions) ++ " of " ++ natText expressions.length ++
        " expressions were invalid\n"
  status_eq : batch.status = if Batch.countFaulty n expressions = 0 then 0 else 1

/-- **A batch is its expressions, one by one.**  The expressions are the lines, trimmed,
without the empty ones. -/
theorem outcome_batch {lines : List String} (hquiet : libraries.QuietByDefault)
    (hunset : i.lookup? libraries Logger.variableName = none)
    (hsettings : i.settings libraries = .ok settings) (hname : Notation.ofName? name = some n)
    (hfile : i.fileText fileName = .ok text)
    (hlines : Lines text.toList (lines.map String.toList)) :
    OneByOne n (Batch.expressions lines)
      (fun expression => i.outcomeWith libraries ["-e", name, expression])
      (i.outcomeWith libraries ["-f", name, fileName]) := by
  have hsingle (expression : String) :
      (i.outcomeWith libraries ["-e", name, expression]).transcript =
        report settings.color n expression :=
    congrArg Outcome.transcript (outcomeWith_evaluate hquiet hunset hsettings hname expression)
  have hbatch := outcomeWith_batch hquiet hunset hsettings hname hfile
  rw [Batch.run_eq settings.color n hlines, Batch.close] at hbatch
  rw [hbatch]
  refine ⟨?_, ?_, rfl⟩
  · simp only [hsingle]
    rw [Transcript.out_append, Transcript.out_join, Batch.out_summary, List.map_map,
      String.append_empty]
    rfl
  · simp only [hsingle]
    rw [Transcript.err_append, Transcript.err_join, Batch.err_summary, List.map_map]
    rfl

/-- What finds a file with a blank line, with both ends of lines and with a product that
lacks an operand. -/
def sums : Invocation where
  arguments := []
  environment := fun _ => none
  fileText := fun fileName =>
    if fileName = "sums" then .ok "1 2 +\x0d\n \n  2 *\n3" else .error .missing
  input := []

theorem outcome_batch_sums :
    let single (expression : String) :=
      sums.outcomeWith (.standard none) ["-e", "postfix", expression]
    let batch := sums.outcomeWith (.standard none) ["-f", "postfix", "sums"]
    OneByOne .postfixed ["1 2 +", "2 *", "3"] single batch ∧ batch.status = 1 ∧
    batch.transcript.out = "1 2 + = 3\n3 = 3\n" := by
  have hlines : Lines "1 2 +\x0d\n \n  2 *\n3".toList
      (["1 2 +", " ", "  2 *", "3"].map String.toList) :=
    lines_iff_linesOf.mpr (by decide)
  have hexpressions : Batch.expressions ["1 2 +", " ", "  2 *", "3"] = ["1 2 +", "2 *", "3"] := by
    decide
  have hbatch := @outcome_batch (.standard none) sums ⟨none, none, true⟩ .postfixed "postfix"
    "sums" _ _ (Libraries.quietByDefault_standard none) rfl rfl rfl rfl hlines
  rw [hexpressions] at hbatch
  exact ⟨hbatch, hbatch.status_eq, hbatch.out_eq.trans rfl⟩

/-- What finds directives for the log and a file with two expressions. -/
def loggedSums (directives : String) : Invocation where
  arguments := []
  environment := fun name => if name = Logger.variableName then some directives else none
  fileText := fun fileName =>
    if fileName = "sums" then .ok "1 2 +\n3 4 *\n" else .error .missing
  input := []

/-- With directives for the log, a batch is not its expressions one by one: its own record
is written when they ask for it, and the warning of directives that cannot be read is
written once. -/
theorem not_oneByOne_loggedSums :
    let libraries := Libraries.standard (some "2024-05-01T10:00:00Z")
    let refuted (directives : String) : Prop :=
      (loggedSums directives).settings libraries = .ok ⟨none, none, true⟩ ∧
      ¬ OneByOne .postfixed ["1 2 +", "3 4 *"]
        (fun expression =>
          (loggedSums directives).outcomeWith libraries ["-e", "postfix", expression])
        ((loggedSums directives).outcomeWith libraries ["-f", "postfix", "sums"])
    Lines "1 2 +\n3 4 *\n".toList (["1 2 +", "3 4 *"].map String.toList) ∧
    refuted "info" ∧ refuted "notation_calc=loud" := by
  refine ⟨lines_iff_linesOf.mpr (by decide), ⟨rfl, fun h => ?_⟩, rfl, fun h => ?_⟩
  · have hbatch : "[2024-05-01T10:00:00Z INFO  notation_calc] Read postfix expressions from sums\n" =
        "" := h.err_eq
    exact absurd hbatch (by decide)
  · have hbatch : "warning: invalid logging spec 'loud', ignoring it\n" =
        "warning: invalid logging spec 'loud', ignoring it\n" ++
          "warning: invalid logging spec 'loud', ignoring it\n" := h.err_eq
    exact absurd hbatch (by decide)

end Invocation

end Reckoner
