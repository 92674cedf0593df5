import Reckoner.Proofs.Session.Batch
import Reckoner.Proofs.Settings

/-!
# A session with a fixed notation and one with the menu

Where the notation comes from makes no difference to the work of a session.  A
session whose notation is fixed and a session that chooses it from the menu,
after any number of lines that are no choice, write the same reports.  The menu
adds what it shows itself: one menu for each refused line, with the reason, one
for the choice and one when the expressions are left.

That is all they write where no directives are given for the log and lines can be
edited on the terminal.  Otherwise records and the requests for lines stand
between the reports.

Main statement: `outcome_interactive`.
-/

namespace Reckoner

/-! ## The menu -/

/-- The number of a notation, typed at the menu, chooses it. -/
theorem Menu.read_natText {n : Notation} {number : Nat}
    (h : Notation.ofNumber? number = some n) : read (natText number) = .ok (.evaluate n) := by
  have hle : number ≤ Notation.all.length := by
    by_contra hlt
    rw [Notation.ofNumber?, if_pos (by omega),
      List.getElem?_eq_none (by omega)] at h
    cases h
  match number, h, hle with
  | 0, h, _ => cases h
  | 1, h, _ => cases h; rfl
  | 2, h, _ => cases h; rfl
  | 3, h, _ => cases h; rfl
  | 4, h, _ => cases h; rfl

namespace Session

/-! ## Refused choices -/

/-- What the menu adds for refused lines: itself, and the reason. -/
def refusals (faults : List ChoiceFault) : Transcript :=
  .join (faults.map fun fault => .outLine Menu.text ++ .outLine (fault.message ++ "\n"))

theorem refusals_cons (fault : ChoiceFault) (faults : List ChoiceFault) :
    refusals (fault :: faults) =
      .outLine Menu.text ++ .outLine (fault.message ++ "\n") ++ refusals faults :=
  Transcript.join_cons _ _

/-- Each reason stands between the menu and a blank line. -/
theorem out_refusals (faults : List ChoiceFault) :
    (refusals faults).out =
      String.join (faults.map fun fault => Menu.text ++ "\n" ++ fault.message ++ "\n\n") := by
  rw [refusals, Transcript.out_join, List.map_map]
  refine congrArg String.join (List.map_congr_left fun fault _ => ?_)
  simp [String.append_assoc]

/-- Refused choices do not go to the error output. -/
theorem err_refusals (faults : List ChoiceFault) : (refusals faults).err = "" := by
  induction faults with
  | nil => rfl
  | cons fault faults ih =>
    rw [refusals_cons, Transcript.err_append, ih]
    rfl

variable {console : Console} {n : Notation} {entered : List String} {line : String}

/-! ## One line -/

theorem shown_menu (h : console.Silent) : shown console .menu = .outLine Menu.text := by
  rw [shown, h.ask_eq, Transcript.append_empty]

theorem shown_expressions (h : console.Silent) (n : Notation) :
    shown console (.expressions n) = .empty := h.ask_eq _

theorem shown_ended : shown console .ended = .empty := rfl

/-- Only the report on an expression is written. -/
theorem evaluation_eq_report (h : console.Silent) (n : Notation) (expression : String) :
    evaluation console n expression = report console.settings.color n expression := by
  rw [evaluation]
  cases n.evaluate expression with
  | ok value => exact Transcript.append_empty _
  | error fault =>
    have hrecord : console.log (.rejected expression fault) = .empty :=
      h.logger_quiet.log_eq (show Severity.debug ≠ .error by decide)
    dsimp only
    rw [hrecord, Transcript.append_empty]

/-- A line that is no choice adds the reason, and the menu is shown again. -/
theorem step_refused (h : console.Silent) {fault : ChoiceFault}
    (hline : Menu.read (console.editor.yields line) = .error fault) :
    step console ⟨.menu, entered⟩ line =
      (.outLine (fault.message ++ "\n") ++ .outLine Menu.text, ⟨.menu, entered⟩) := by
  simp only [step, menuLine, hline, enter, shown_menu h]

/-- The choice of a notation leads to its expressions. -/
theorem step_choice (h : console.Silent)
    (hline : Menu.read (console.editor.yields line) = .ok (.evaluate n)) :
    step console ⟨.menu, entered⟩ line = (.empty, ⟨.expressions n, entered⟩) := by
  simp only [step, menuLine, hline, enter, shown_expressions h]

/-- A blank line between expressions changes nothing. -/
theorem step_blank (h : console.Silent) (hline : trim (console.editor.yields line) = "") :
    step console ⟨.expressions n, entered⟩ line = (.empty, ⟨.expressions n, entered⟩) := by
  simp only [step, expressionLine, hline, enter, shown_expressions h]
  rfl

/-- An expression is reported on and entered in the history. -/
theorem step_expression (h : console.Silent) (hline : trim (console.editor.yields line) ≠ "")
    (hstay : asksToLeave (trim (console.editor.yields line)) = false) :
    step console ⟨.expressions n, entered⟩ line =
      (report console.settings.color n (trim (console.editor.yields line)),
        ⟨.expressions n, trim (console.editor.yields line) :: entered⟩) := by
  simp only [step, expressionLine, hstay, enter, shown_expressions h, evaluation_eq_report h,
    Transcript.append_empty]
  rw [if_neg (by simpa using hline)]
  rfl

/-! ## Several lines -/

/-- What a line writes is added to what was written before it. -/
theorem readLines_cons {session session' : Session} {transcript : Transcript}
    (h : session.step console line = (transcript, session')) (written : Transcript)
    (lines : List String) :
    readLines console written session (line :: lines) =
      readLines console (written ++ transcript) session' lines := by
  rw [readLines, h]

/-- Each refused line adds its reason behind the menu that was shown before it. -/
theorem readLines_refused (h : console.Silent) {refused : List String} {faults : List ChoiceFault}
    (hrefused : refused.map (fun line => Menu.read (console.editor.yields line)) =
      faults.map .error)
    (written : Transcript) (lines : List String) :
    readLines console (written ++ .outLine Menu.text) ⟨.menu, entered⟩ (refused ++ lines) =
      readLines console
        (written ++ refusals faults ++ .outLine Menu.text) ⟨.menu, entered⟩ lines := by
  induction refused generalizing faults written with
  | nil =>
    obtain rfl : faults = [] := List.map_eq_nil_iff.mp hrefused.symm
    rw [refusals, List.map_nil, Transcript.join_nil, Transcript.append_empty, List.nil_append]
  | cons line refused ih =>
    obtain ⟨fault, faults, rfl, hline, hrefused⟩ := List.map_eq_cons_iff.mp hrefused.symm
    rw [List.cons_append, readLines_cons (step_refused h hline.symm), ← Transcript.append_assoc,
      Transcript.append_assoc written, ih hrefused.symm, refusals_cons,
      Transcript.append_assoc written]

/-- Lines that do not ask to leave are reported on until the input ends. -/
theorem readLines_expressions (h : console.Silent) (n : Notation) {lines : List String}
    (hlines : ∀ line ∈ lines, asksToLeave (trim (console.editor.yields line)) = false)
    (written : Transcript) (entered : List String) : ∃ entered',
      readLines console written ⟨.expressions n, entered⟩ lines =
        (written ++ .join ((Batch.expressions (lines.map console.editor.yields)).map
          (report console.settings.color n)) ++ (leaveExpressions console entered').1,
          ⟨.ended, entered'⟩) := by
  induction lines generalizing written entered with
  | nil =>
    refine ⟨entered, ?_⟩
    rw [List.map_nil, Batch.expressions_nil, List.map_nil, Transcript.join_nil,
      Transcript.append_empty, readLines, close]
    rw [leaveExpressions]
    cases console.settings.fixedNotation <;> rfl
  | cons line lines ih =>
    obtain ⟨hline, hlines⟩ := List.forall_mem_cons.mp hlines
    rw [List.map_cons]
    by_cases hblank : trim (console.editor.yields line) = ""
    · rw [readLines_cons (step_blank h hblank), Transcript.append_empty,
        Batch.expressions_blank hblank]
      exact ih hlines written entered
    · rw [readLines_cons (step_expression h hblank hline), Batch.expressions_expression hblank,
        List.map_cons, Transcript.join_cons, ← Transcript.append_assoc written]
      exact ih hlines _ _

/-! ## Whole sessions -/

/-- A session whose notation is fixed writes the reports. -/
theorem run_fixed (h : console.Silent) {lines : List String}
    (hfixed : console.settings.fixedNotation = some n)
    (hlines : ∀ line ∈ lines, asksToLeave (trim (console.editor.yields line)) = false) :
    (run console lines).1 =
      .join ((Batch.expressions (lines.map console.editor.yields)).map
        (report console.settings.color n)) := by
  obtain ⟨entered', hread⟩ := readLines_expressions h n hlines .empty []
  simp only [run, start, hfixed, enter, shown_expressions h, hread, leaveExpressions, shown_ended,
    Transcript.empty_append, Transcript.append_empty]

/-- A session with the menu shows it for each refused line, for the choice, and
after the reports. -/
theorem run_chosen (h : console.Silent) {refused lines : List String} {faults : List ChoiceFault}
    {choice : String} (hmenu : console.settings.fixedNotation = none)
    (hchoice : Menu.read (console.editor.yields choice) = .ok (.evaluate n))
    (hrefused : refused.map (fun line => Menu.read (console.editor.yields line)) =
      faults.map .error)
    (hlines : ∀ line ∈ lines, asksToLeave (trim (console.editor.yields line)) = false) :
    (run console (refused ++ choice :: lines)).1 =
      refusals faults ++ .outLine Menu.text ++
        .join ((Batch.expressions (lines.map console.editor.yields)).map
          (report console.settings.color n)) ++ .outLine Menu.text := by
  have hstart (lines : List String) : run console lines =
      readLines console (.empty ++ .outLine Menu.text) ⟨.menu, []⟩ lines := by
    simp only [run, start, hmenu, enter, shown_menu h, Transcript.empty_append]
  obtain ⟨entered', hread⟩ := readLines_expressions h n hlines
    (refusals faults ++ .outLine Menu.text) []
  rw [hstart, readLines_refused h hrefused, readLines_cons (step_choice h hchoice),
    Transcript.append_empty, Transcript.empty_append, hread]
  simp only [leaveExpressions, hmenu, enter, shown_menu h]

end Session

/-! ## What is written for an expression -/

/-- The line on the ordinary output for an expression; there is none if it is faulty. -/
def resultLine (n : Notation) (expression : String) : String :=
  match n.evaluate expression with
  | .ok value => expression ++ " = " ++ value.text ++ "\n"
  | .error _ => ""

/-- The lines on the error output for an expression; there are none if it is valid.  A
label, red if colour is wanted, stands before the expression and the reason.  If the fault
lies at a place, the expression follows with that place underlined. -/
def faultLines (color : Bool) (n : Notation) (expression : String) : String :=
  match n.evaluate expression with
  | .ok _ => ""
  | .error fault =>
    (if color then "\x1b[41mError:\x1b[0m" else "Error:") ++ " Invalid expression '" ++
      expression ++ "': " ++ fault.message ++ "\n" ++
      match fault.span? with
      | none => ""
      | some span =>
        "    " ++ expression ++ "\n" ++ "    " ++ span.underline expression ++ "\n"

theorem out_report (color : Bool) (n : Notation) (expression : String) :
    (report color n expression).out = resultLine n expression := by
  rw [report, resultLine]
  cases n.evaluate expression with
  | ok value => rfl
  | error fault =>
    dsimp only [faultReport]
    cases fault.span? <;> rfl

theorem err_report (color : Bool) (n : Notation) (expression : String) :
    (report color n expression).err = faultLines color n expression := by
  rw [report, faultLines]
  cases n.evaluate expression with
  | ok value => rfl
  | error fault =>
    dsimp only [faultReport]
    cases fault.span? with
    | none => exact (String.append_empty).symm
    | some span =>
      simp only [Transcript.err_append, Transcript.errLine, faultLabel, String.append_assoc]

/-- The reports on several expressions, on the ordinary output. -/
theorem out_reports (color : Bool) (n : Notation) (expressions : List String) :
    (Transcript.join (expressions.map (report color n))).out =
      String.join (expressions.map (resultLine n)) := by
  rw [Transcript.out_join, List.map_map]
  exact congrArg String.join (List.map_congr_left fun expression _ => out_report color n expression)

/-- The reports on several expressions, on the error output. -/
theorem err_reports (color : Bool) (n : Notation) (expressions : List String) :
    (Transcript.join (expressions.map (report color n))).err =
      String.join (expressions.map (faultLines color n)) := by
  rw [Transcript.err_join, List.map_map]
  exact congrArg String.join (List.map_congr_left fun expression _ => err_report color n expression)

/-! ## Two invocations -/

/-- The text of a number is digits. -/
theorem backspace_not_mem_natText (number : Nat) : backspace ∉ (natText number).toList := by
  rw [natText, String.toList_ofList]
  intro hmem
  have hdigit : backspace.isDigit = true :=
    Nat.isDigit_of_mem_toDigits (by decide) (by decide) hmem
  exact absurd hdigit (by decide)

namespace Invocation

/-- Two interactive sessions without a history, of which one finds the notation
in its variable and the other finds that variable not set.  All other variables
are the same. -/
structure FixesNotation (libraries : Libraries) (fixed chosen : Invocation) (n : Notation) :
    Prop where
  /-- The first session is interactive. -/
  fixed_interactive : Command.ofArguments fixed.arguments = .ok .interactive
  /-- The second session is interactive. -/
  chosen_interactive : Command.ofArguments chosen.arguments = .ok .interactive
  /-- In the first session the variable names the notation. -/
  fixed_named : ∃ name, fixed.lookup? libraries Settings.notationVariable = some name ∧
    Notation.ofName? name = some n
  /-- In the second session the variable is not set. -/
  chosen_unnamed : Settings.valueOf? (chosen.lookup? libraries) Settings.notationVariable = none
  /-- Other variables have the same values in both sessions. -/
  variable_eq : ∀ name, name ≠ Settings.notationVariable →
    fixed.lookup? libraries name = chosen.lookup? libraries name
  /-- There is no history file. -/
  history_unset : Settings.valueOf? (fixed.lookup? libraries) Settings.historyVariable = none

variable {libraries : Libraries} {i fixed chosen : Invocation} {n : Notation}
  {settings : Settings}

/-- The first session has the notation. -/
theorem FixesNotation.eq_settings (h : FixesNotation libraries fixed chosen n)
    (hsettings : fixed.settings libraries = .ok settings) :
    settings.fixedNotation = some n ∧ settings.historyFile = none := by
  obtain ⟨hnamed, hhistory, -⟩ := Settings.ofLookup_eq_ok_iff.mp hsettings
  obtain ⟨name, hname, hn⟩ := h.fixed_named
  have hfixed := Settings.readNotation_of_ofName? hname hn
  refine ⟨?_, hhistory.symm.trans h.history_unset⟩
  exact Except.ok.inj (hnamed.symm.trans hfixed)

/-- The second session has the other settings of the first one. -/
theorem FixesNotation.chosen_settings (h : FixesNotation libraries fixed chosen n)
    (hsettings : fixed.settings libraries = .ok settings) :
    chosen.settings libraries = .ok { settings with fixedNotation := none } := by
  obtain ⟨-, hhistory, hcolor⟩ := Settings.ofLookup_eq_ok_iff.mp hsettings
  refine Settings.ofLookup_eq_ok_iff.mpr ⟨Settings.readNotation_of_unset h.chosen_unnamed, ?_, ?_⟩
  · exact (Settings.valueOf?_congr (h.variable_eq _ (by decide))).symm.trans hhistory
  · exact (Settings.readColor_congr (h.variable_eq _ (by decide))).symm.trans hcolor

/-- Without directives for the log and a history file, the outcome of an interactive session
is what the session writes. -/
theorem outcome_of_interactive (hquiet : libraries.QuietByDefault)
    (hunset : i.lookup? libraries Logger.variableName = none)
    (hsettings : i.settings libraries = .ok settings)
    (hcommand : Command.ofArguments i.arguments = .ok .interactive)
    (hhistory : settings.historyFile = none) :
    i.outcome libraries = ⟨(Session.run (i.console libraries settings) i.input).1, 0, none⟩ := by
  have hrecords : i.sessionRecords settings = [.sessionBegins] := by
    rw [sessionRecords, hhistory]
  have hlog : (i.console libraries settings).logger.logAll [.sessionBegins] = .empty :=
    (hquiet _ hunset).logAll_eq
      (List.forall_mem_singleton.2 (show Severity.info ≠ .error by decide))
  have hsave (session : Session) : i.savedHistory (i.console libraries settings) session = none := by
    rw [savedHistory, console, hhistory]
    rfl
  have houtcome : i.outcome libraries = i.perform (i.console libraries settings) .interactive :=
    outcomeWith_eq_perform_of_unset hquiet hunset hsettings hcommand
  have hconsole : (i.console libraries settings).settings = settings := rfl
  rw [houtcome]
  simp only [perform, hconsole, hrecords, hlog, hsave, Transcript.empty_append]

/-- Where no directives are given for the log and lines can be edited on the terminal, the
console is silent. -/
theorem silent_console (hquiet : libraries.QuietByDefault) (heditor : libraries.editor.ReadsPipes)
    (hunset : i.lookup? libraries Logger.variableName = none)
    (hterminal : Editor.canEditOn (i.lookup? libraries Console.terminalVariable) = true)
    (settings : Settings) : (i.console libraries settings).Silent :=
  Console.silent_of_canEditOn (hquiet _ hunset) heditor hterminal

/-- Two sessions do the same work, the one with the notation fixed and the other with the
menu.  Both end with the status 0 and keep no history.  The error output of both is what is
written there for the expressions, in order.  So is the ordinary output of the first one.
The second one writes the same between two menus, behind one more menu for each refused
choice, with the reason and a blank line. -/
structure SameWork (color : Bool) (n : Notation) (expressions : List String)
    (faults : List ChoiceFault) (fixed chosen : Outcome) : Prop where
  fixed_status : fixed.status = 0
  chosen_status : chosen.status = 0
  fixed_saved : fixed.saved = none
  chosen_saved : chosen.saved = none
  fixed_err : fixed.transcript.err = String.join (expressions.map (faultLines color n))
  chosen_err : chosen.transcript.err = fixed.transcript.err
  fixed_out : fixed.transcript.out = String.join (expressions.map (resultLine n))
  chosen_out : chosen.transcript.out =
    String.join (faults.map fun fault => Menu.text ++ "\n" ++ fault.message ++ "\n\n") ++
      (Menu.text ++ "\n") ++ fixed.transcript.out ++ (Menu.text ++ "\n")

/-- **It makes no difference where the notation comes from.**  A session whose notation is
fixed does the same work as a session that reads refused choices, the number of the notation
and the same lines.  The expressions are the lines that the editor yields, trimmed, without
the empty ones. -/
theorem outcome_interactive {number : Nat} {refused lines : List String}
    {faults : List ChoiceFault} (hquiet : libraries.QuietByDefault)
    (heditor : libraries.editor.ReadsPipes) (h : FixesNotation libraries fixed chosen n)
    (hunset : fixed.lookup? libraries Logger.variableName = none)
    (hterminal : Editor.canEditOn (fixed.lookup? libraries Console.terminalVariable) = true)
    (hsettings : fixed.settings libraries = .ok settings)
    (hnumber : Notation.ofNumber? number = some n)
    (hrefused : refused.map (fun line => Menu.read (libraries.editor.yields line)) =
      faults.map .error)
    (hlines : ∀ line ∈ lines, trim (libraries.editor.yields line) ≠ "quit" ∧
      trim (libraries.editor.yields line) ≠ "q")
    (hfixed : fixed.input = lines) (hchosen : chosen.input = refused ++ natText number :: lines) :
    SameWork settings.color n (Batch.expressions (lines.map libraries.editor.yields)) faults
      (fixed.outcome libraries) (chosen.outcome libraries) := by
  have hstay : ∀ line ∈ lines,
      Session.asksToLeave (trim (libraries.editor.yields line)) = false := by
    intro line hline
    obtain ⟨hquit, hq⟩ := hlines line hline
    rw [Session.asksToLeave, decide_eq_false hquit, decide_eq_false hq]
    rfl
  have hchoice : Menu.read (libraries.editor.yields (natText number)) = .ok (.evaluate n) := by
    rw [heditor.yields_eq _ (backspace_not_mem_natText number)]
    exact Menu.read_natText hnumber
  obtain ⟨hnamed, hhistory⟩ := h.eq_settings hsettings
  have hchosenUnset : chosen.lookup? libraries Logger.variableName = none :=
    (h.variable_eq _ (by decide)).symm.trans hunset
  have hchosenTerminal :
      Editor.canEditOn (chosen.lookup? libraries Console.terminalVariable) = true := by
    rw [← h.variable_eq _ (by decide)]
    exact hterminal
  have hfixedOutcome := outcome_of_interactive hquiet hunset hsettings h.fixed_interactive hhistory
  rw [hfixed, Session.run_fixed (silent_console hquiet heditor hunset hterminal settings) hnamed
    hstay] at hfixedOutcome
  have hchosenOutcome := outcome_of_interactive hquiet hchosenUnset (h.chosen_settings hsettings)
    h.chosen_interactive hhistory
  rw [hchosen, Session.run_chosen (silent_console hquiet heditor hchosenUnset hchosenTerminal _) rfl
    hchoice hrefused hstay] at hchosenOutcome
  rw [hfixedOutcome, hchosenOutcome]
  refine ⟨rfl, rfl, rfl, rfl, err_reports _ _ _, ?_, out_reports _ _ _, ?_⟩
  · rw [Transcript.err_append, Transcript.err_append, Transcript.err_append, Session.err_refusals,
      Transcript.err_outLine, String.append_empty, String.append_empty, String.empty_append]
    rfl
  · rw [Transcript.out_append, Transcript.out_append, Transcript.out_append, Session.out_refusals,
      Transcript.out_outLine]
    rfl

/-- Another variable beside that of the notation. -/
def onlyVariable (name value : String) : String → Option String := fun other =>
  if other = name then some value else none

/-- A session that finds its notation in the variable. -/
def postfixSession (others : String → Option String) : Invocation where
  arguments := []
  environment := fun name =>
    if name = Settings.notationVariable then some "postfix" else others name
  fileText := fun _ => .error .missing
  input := ["1 2 +", "", "2 *"]

/-- The session that chooses that notation, the third time it is asked. -/
def menuSession (others : String → Option String) : Invocation where
  arguments := ["-i"]
  environment := fun name => if name = Settings.notationVariable then none else others name
  fileText := fun _ => .error .missing
  input := ["x", "9", "2", "1 2 +", "", "2 *"]

theorem fixesNotation_postfixSession (time : Option String) {others : String → Option String}
    (hhistory : others Settings.historyVariable = none) :
    FixesNotation (.standard time) (postfixSession others) (menuSession others) .postfixed where
  fixed_interactive := rfl
  chosen_interactive := rfl
  fixed_named := ⟨"postfix", rfl, rfl⟩
  chosen_unnamed := rfl
  variable_eq := fun _ hname =>
    congrArg (Option.or · none) ((if_neg hname).trans (if_neg hname).symm)
  history_unset := by
    have hlookup : (postfixSession others).lookup? (.standard time) Settings.historyVariable =
        (others Settings.historyVariable).or none := rfl
    rw [Settings.valueOf?, hlookup, hhistory]
    rfl

theorem outcome_interactive_menuSession :
    let fixed := (postfixSession fun _ => none).outcome (.standard none)
    let chosen := (menuSession fun _ => none).outcome (.standard none)
    SameWork true .postfixed ["1 2 +", "2 *"] [.notAnInteger "x", .tooLarge 5] fixed chosen ∧
    fixed.transcript.out = "1 2 + = 3\n" ∧
    chosen.transcript.err = "\x1b[41mError:\x1b[0m Invalid expression '2 *': " ++
      "Operator `*` at position [2:2] does not have two operands\n    2 *\n      ^\n" := by
  have hplain : ∀ line ∈ ["1 2 +", "", "2 *"], backspace ∉ line.toList := by decide
  have hlines : ∀ line ∈ ["1 2 +", "", "2 *"],
      trim (typedLine line) ≠ "quit" ∧ trim (typedLine line) ≠ "q" := by
    intro line hline
    rw [typedLine_of_not_mem (hplain line hline)]
    revert line
    decide
  have hexpressions : Batch.expressions (["1 2 +", "", "2 *"].map Editor.standard.yields) =
      ["1 2 +", "2 *"] := by decide +kernel
  have hwork : SameWork true .postfixed
      (Batch.expressions (["1 2 +", "", "2 *"].map Editor.standard.yields))
      [.notAnInteger "x", .tooLarge 5] _ _ :=
    @outcome_interactive (.standard none) (postfixSession fun _ => none)
      (menuSession fun _ => none) .postfixed ⟨some .postfixed, none, true⟩ 2 ["x", "9"]
      ["1 2 +", "", "2 *"] _ (Libraries.quietByDefault_standard none) Editor.readsPipes_standard
      (fixesNotation_postfixSession none rfl) rfl rfl rfl rfl rfl hlines rfl rfl
  rw [hexpressions] at hwork
  refine ⟨hwork, hwork.fixed_out.trans rfl, (hwork.chosen_err.trans hwork.fixed_err).trans ?_⟩
  decide +kernel

/-- With directives for the log, and on a terminal on which lines cannot be edited, more is
written than the work: records, or a warning, and the requests for lines. -/
theorem not_sameWork_onlyVariable :
    let libraries := Libraries.standard (some "2024-05-01T10:00:00Z")
    let refuted (others : String → Option String) : Prop :=
      FixesNotation libraries (postfixSession others) (menuSession others) .postfixed ∧
      (postfixSession others).settings libraries = .ok ⟨some .postfixed, none, true⟩ ∧
      ¬ SameWork true .postfixed ["1 2 +", "2 *"] [.notAnInteger "x", .tooLarge 5]
        ((postfixSession others).outcome libraries) ((menuSession others).outcome libraries)
    refuted (onlyVariable Logger.variableName "info") ∧
    refuted (onlyVariable Logger.variableName "notation_calc=loud") ∧
    refuted (onlyVariable Console.terminalVariable "dumb") := by
  refine ⟨⟨fixesNotation_postfixSession _ rfl, rfl, fun h => ?_⟩,
    ⟨fixesNotation_postfixSession _ rfl, rfl, fun h => ?_⟩,
    ⟨fixesNotation_postfixSession _ rfl, rfl, fun h => ?_⟩⟩
  · exact absurd h.fixed_err (by decide +kernel)
  · exact absurd h.fixed_err (by decide +kernel)
  · exact absurd h.fixed_out (by decide +kernel)

end Invocation

end Reckoner
