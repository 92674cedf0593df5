import Mathlib.Logic.Function.Basic
import Reckoner.Proofs.Settings.Variables

/-!
# Settings and the style of variables

Blanks around the values of the variables and the case of ASCII letters make no difference
to the settings, nor to which variable is refused (`Settings.endAlike`).  The variables do
not interfere: a refused notation is always reported, a refused switch if the notation is
not refused, and each part of the settings is read from its own variable.

Main statement: `Settings.ofLookup_restyled`.
-/

namespace Reckoner

namespace Settings

variable {lookup other : String → Option String} {fault : SettingsFault}
  {settings settings' : Settings} {value : String}

/-! ## Faults -/

/-- The notation is read first, and then the switch. -/
theorem ofLookup_eq_error_iff :
    ofLookup lookup = .error fault ↔ readNotation lookup = .error fault ∨
      (∃ fixed, readNotation lookup = .ok fixed) ∧ readColor lookup = .error fault := by
  rw [ofLookup]
  cases readNotation lookup with
  | error fault' => simp [bind, Except.bind]
  | ok fixed =>
    cases readColor lookup with
    | error fault' => simp [bind, Except.bind]
    | ok color => simp [bind, Except.bind, pure, Except.pure]

/-- A refused notation is reported whatever the other variables are. -/
theorem ofLookup_eq_unknownNotation_iff :
    ofLookup lookup = .error (.unknownNotation value) ↔
      Refused (Means Notation.names) (lookup notationVariable) value := by
  rw [ofLookup_eq_error_iff, readNotation_eq_error_iff, readColor_eq_error_iff]
  constructor
  · rintro (⟨value, hrefused, heq⟩ | ⟨-, value, -, heq⟩)
    · cases heq
      exact hrefused
    · cases heq
  · intro hrefused
    exact .inl ⟨value, hrefused, rfl⟩

/-- A refused switch is reported when the notation is not refused. -/
theorem ofLookup_eq_notASwitch_iff {name : String} :
    ofLookup lookup = .error (.notASwitch name value) ↔ name = colorVariable ∧
      Refused (Means switchNames) (lookup colorVariable) value ∧
      ∀ refused, ¬ Refused (Means Notation.names) (lookup notationVariable) refused := by
  rw [ofLookup_eq_error_iff, readNotation_eq_error_iff, readColor_eq_error_iff]
  constructor
  · rintro (⟨value, -, heq⟩ | ⟨⟨fixed, hfixed⟩, value, hrefused, heq⟩)
    · cases heq
    · cases heq
      refine ⟨rfl, hrefused, fun refused h => ?_⟩
      rw [readNotation_eq_error_iff.2 ⟨refused, h, rfl⟩] at hfixed
      cases hfixed
  · rintro ⟨rfl, hrefused, hgood⟩
    refine .inr ⟨?_, value, hrefused, rfl⟩
    obtain ⟨fixed, hgiven⟩ | ⟨refused, h⟩ :=
      given_or_refused (Means Notation.names) (lookup notationVariable)
    · exact ⟨fixed, readNotation_eq_ok_iff.2 hgiven⟩
    · exact absurd h (hgood refused)

/-! ## Variables apart -/

theorem valueOf?_update {name : String} (hlookup : lookup name = some value)
    (hblank : isBlankText value = true) (variableName : String) :
    valueOf? (Function.update lookup name none) variableName = valueOf? lookup variableName := by
  unfold valueOf?
  by_cases hname : variableName = name
  · rw [hname, Function.update_self, hlookup, Option.filter_some, hblank]
    rfl
  · rw [Function.update_of_ne hname]

/-- A blank variable acts as if it were not set. -/
theorem ofLookup_update {name : String} (hlookup : lookup name = some value)
    (hblank : isBlankText value = true) :
    ofLookup (Function.update lookup name none) = ofLookup lookup := by
  unfold ofLookup readNotation readColor
  simp only [valueOf?_update hlookup hblank]

theorem readNotation_congr (h : lookup notationVariable = other notationVariable) :
    readNotation lookup = readNotation other := by
  rw [readNotation, readNotation, valueOf?_congr h]

/-- The settings of two lookups have a part in common when its variable has the same value
in both. -/
structure SharedParts (lookup other : String → Option String) (settings settings' : Settings) :
    Prop where
  fixedNotation_eq : lookup notationVariable = other notationVariable →
    settings.fixedNotation = settings'.fixedNotation
  historyFile_eq : lookup historyVariable = other historyVariable →
    settings.historyFile = settings'.historyFile
  color_eq : lookup colorVariable = other colorVariable → settings.color = settings'.color

theorem sharedParts (h : ofLookup lookup = .ok settings) (h' : ofLookup other = .ok settings') :
    SharedParts lookup other settings settings' := by
  obtain ⟨hfixed, hhistory, hcolor⟩ := ofLookup_eq_ok_iff.1 h
  obtain ⟨hfixed', hhistory', hcolor'⟩ := ofLookup_eq_ok_iff.1 h'
  refine ⟨fun heq => ?_, fun heq => ?_, fun heq => ?_⟩
  · rw [readNotation_congr heq, hfixed'] at hfixed
    exact (Except.ok.inj hfixed).symm
  · rw [← hhistory, valueOf?_congr heq, hhistory']
  · rw [readColor_congr heq, hcolor'] at hcolor
    exact (Except.ok.inj hcolor).symm

/-! ## Another style -/

/-- The second lookup is the first one with the notation and the switch for colour in
another style. -/
structure RestyledLookup (lookup other : String → Option String) : Prop where
  notation_restyled :
    Option.Rel Restyled (lookup notationVariable) (other notationVariable)
  color_restyled : Option.Rel Restyled (lookup colorVariable) (other colorVariable)
  history_eq : lookup historyVariable = other historyVariable

theorem readNotation_restyled (h : RestyledLookup lookup other) :
    (∃ fixed, readNotation lookup = .ok fixed ∧ readNotation other = .ok fixed) ∨
    ∃ value value', lookup notationVariable = some value ∧
      other notationVariable = some value' ∧
      readNotation lookup = .error (.unknownNotation value) ∧
      readNotation other = .error (.unknownNotation value') := by
  have hname (value value' : String) (hvalue : Restyled value value') :
      Notation.ofName? value' = Notation.ofName? value := by
    rw [Notation.ofName?, hvalue.folded_eq, Notation.ofName?]
  rw [readNotation_eq, readNotation_eq]
  exact readVariable_restyled hname h.notation_restyled

theorem readColor_restyled (h : RestyledLookup lookup other) :
    (∃ color, readColor lookup = .ok color ∧ readColor other = .ok color) ∨
    ∃ value value', lookup colorVariable = some value ∧ other colorVariable = some value' ∧
      readColor lookup = .error (.notASwitch colorVariable value) ∧
      readColor other = .error (.notASwitch colorVariable value') := by
  have hswitch (value value' : String) (hvalue : Restyled value value') :
      readSwitch? value' = readSwitch? value := by
    rw [readSwitch?, hvalue.folded_eq, readSwitch?]
  rw [readColor_eq, readColor_eq]
  obtain ⟨switch, hread, hread'⟩ | ⟨value, value', hvalue, hvalue', hread, hread'⟩ :=
    readVariable_restyled hswitch h.color_restyled
  · rw [hread, hread']
    exact .inl ⟨switch.getD true, rfl, rfl⟩
  · rw [hread, hread']
    exact .inr ⟨value, value', hvalue, hvalue', rfl, rfl⟩

/-- Two lookups give the same settings, or the same kind of fault, each of them with the
value that it has itself. -/
inductive EndAlike (lookup other : String → Option String) :
    Except SettingsFault Settings → Except SettingsFault Settings → Prop
  /-- Both give the same settings. -/
  | ok (settings : Settings) : EndAlike lookup other (.ok settings) (.ok settings)
  /-- Both name no notation. -/
  | unknownNotation {value value' : String} (h : lookup notationVariable = some value)
      (h' : other notationVariable = some value') :
      EndAlike lookup other (.error (.unknownNotation value)) (.error (.unknownNotation value'))
  /-- Both have no switch for colour. -/
  | notASwitch {value value' : String} (h : lookup colorVariable = some value)
      (h' : other colorVariable = some value') :
      EndAlike lookup other (.error (.notASwitch colorVariable value))
        (.error (.notASwitch colorVariable value'))

/-- **The style of the variables makes no difference.** -/
theorem endAlike (h : RestyledLookup lookup other) :
    EndAlike lookup other (ofLookup lookup) (ofLookup other) := by
  obtain ⟨fixed, hfixed, hfixed'⟩ | ⟨value, value', hvalue, hvalue', hfault, hfault'⟩ :=
    readNotation_restyled h
  · obtain ⟨color, hcolor, hcolor'⟩ | ⟨value, value', hvalue, hvalue', hfault, hfault'⟩ :=
      readColor_restyled h
    · have hhistory := valueOf?_congr h.history_eq
      have hsettings : ofLookup lookup = .ok ⟨fixed, valueOf? lookup historyVariable, color⟩ :=
        ofLookup_eq_ok_iff.2 ⟨hfixed, rfl, hcolor⟩
      have hsettings' : ofLookup other = .ok ⟨fixed, valueOf? lookup historyVariable, color⟩ :=
        ofLookup_eq_ok_iff.2 ⟨hfixed', hhistory.symm, hcolor'⟩
      rw [hsettings, hsettings']
      exact .ok _
    · rw [ofLookup_eq_error_iff.2 (.inr ⟨⟨fixed, hfixed⟩, hfault⟩),
        ofLookup_eq_error_iff.2 (.inr ⟨⟨fixed, hfixed'⟩, hfault'⟩)]
      exact .notASwitch hvalue hvalue'
  · rw [ofLookup_eq_error_iff.2 (.inl hfault), ofLookup_eq_error_iff.2 (.inl hfault')]
    exact .unknownNotation hvalue hvalue'

/-! ## Main statement -/

/-- The variables of a lookup do not interfere with each other. -/
structure VariablesApart (lookup : String → Option String) : Prop where
  /-- A blank variable acts as if it were not set. -/
  blank_unset : ∀ name value, lookup name = some value → isBlankText value = true →
    ofLookup (Function.update lookup name none) = ofLookup lookup
  /-- A refused notation is reported whatever the other variables are. -/
  notation_reported : ∀ value, ofLookup lookup = .error (.unknownNotation value) ↔
    Refused (Means Notation.names) (lookup notationVariable) value
  /-- A refused switch is reported exactly when the notation is not refused. -/
  color_reported : ∀ name value, ofLookup lookup = .error (.notASwitch name value) ↔
    name = colorVariable ∧ Refused (Means switchNames) (lookup colorVariable) value ∧
      ∀ refused, ¬ Refused (Means Notation.names) (lookup notationVariable) refused
  /-- Each part of the settings is given by its own variable.  The value of the history
  variable is taken as it is, and colour is shown unless it is switched off. -/
  settings_given : ∀ settings, ofLookup lookup = .ok settings ↔
    Given (Means Notation.names) (lookup notationVariable) settings.fixedNotation ∧
    Given Eq (lookup historyVariable) settings.historyFile ∧
    ∃ switch, Given (Means switchNames) (lookup colorVariable) switch ∧
      settings.color = switch.getD true
  /-- Nothing else makes a difference to a part of the settings. -/
  parts_shared : ∀ other settings settings', ofLookup lookup = .ok settings →
    ofLookup other = .ok settings' → SharedParts lookup other settings settings'

theorem variablesApart (lookup : String → Option String) : VariablesApart lookup where
  blank_unset _ _ := ofLookup_update
  notation_reported _ := ofLookup_eq_unknownNotation_iff
  color_reported _ _ := ofLookup_eq_notASwitch_iff
  settings_given _ := by
    rw [ofLookup_eq_ok_iff, readNotation_eq_ok_iff, valueOf?_eq_iff, readColor_eq_ok_iff]
  parts_shared _ _ _ := sharedParts

/-- **Settings do not depend on the style of the variables, and the variables do not
interfere.** -/
theorem ofLookup_restyled :
    (∀ lookup other, RestyledLookup lookup other →
      EndAlike lookup other (ofLookup lookup) (ofLookup other)) ∧
    ∀ lookup, VariablesApart lookup :=
  ⟨fun _ _ => endAlike, variablesApart⟩

/-- A lookup with all three variables set. -/
def lookupOf (fixed path color : String) : String → Option String := fun name =>
  if name = notationVariable then some fixed
  else if name = historyVariable then some path
  else if name = colorVariable then some color
  else none

def plainLookup : String → Option String := lookupOf "parenthetical infix" " log " "No"

/-- The same settings in another style. -/
def styledLookup : String → Option String :=
  lookupOf "\tParenthetical INFIX\u3000" " log " "\nnO "

theorem restyledLookup_styledLookup : RestyledLookup plainLookup styledLookup where
  notation_restyled :=
    .some ⟨"Parenthetical INFIX".toList, by decide, ['\t'], ['\u3000'], rfl,
      List.forall_mem_singleton.2 rfl, List.forall_mem_singleton.2 rfl⟩
  color_restyled :=
    .some ⟨"nO".toList, by decide, ['\n'], [' '], rfl,
      List.forall_mem_singleton.2 rfl, List.forall_mem_singleton.2 rfl⟩
  history_eq := rfl

theorem ofLookup_restyled_styledLookup :
    RestyledLookup plainLookup styledLookup ∧
    EndAlike plainLookup styledLookup (ofLookup plainLookup) (ofLookup styledLookup) ∧
    ofLookup styledLookup = .ok ⟨some .grouped, some " log ", false⟩ ∧
    ofLookup (Function.update (lookupOf "2" "" "\t") colorVariable none) =
      .ok ⟨some .postfixed, none, true⟩ := by
  refine ⟨restyledLookup_styledLookup, ?_, rfl, ?_⟩
  · exact ofLookup_restyled.1 _ _ restyledLookup_styledLookup
  · exact (ofLookup_restyled.2 (lookupOf "2" "" "\t")).blank_unset colorVariable "\t" rfl rfl

end Settings

end Reckoner
