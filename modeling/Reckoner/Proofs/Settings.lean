import Reckoner.Proofs.Text.Blank
import Reckoner.Settings.Basic

/-!
# What the settings are read from

The settings are made up of three parts, each of which is read from one variable.
-/

namespace Reckoner

/-! ## Blank names -/

/-- A name of a notation is not blank. -/
theorem Notation.isBlankText_of_ofName? {name : String} {n : Notation}
    (h : ofName? name = some n) : isBlankText name = false := by
  cases hblank : isBlankText name with
  | false => rfl
  | true =>
    rw [ofName?, folded, trimChars_of_blank hblank] at h
    cases h

namespace Settings

variable {lookup lookup' : String → Option String}

/-! ## The parts -/

/-- The settings are read when each of their parts is. -/
theorem ofLookup_eq_ok_iff {settings : Settings} :
    ofLookup lookup = .ok settings ↔
      readNotation lookup = .ok settings.fixedNotation ∧
      valueOf? lookup historyVariable = settings.historyFile ∧
      readColor lookup = .ok settings.color := by
  obtain ⟨fixedNotation, historyFile, color⟩ := settings
  rw [ofLookup]
  cases readNotation lookup with
  | error fault => simp [bind, Except.bind]
  | ok fixedNotation' =>
    cases readColor lookup with
    | error fault => simp [bind, Except.bind]
    | ok color' => simp [bind, Except.bind, pure, Except.pure]

/-- A name of a notation fixes that notation. -/
theorem readNotation_of_ofName? {name : String} {n : Notation}
    (hlookup : lookup notationVariable = some name) (hname : Notation.ofName? name = some n) :
    readNotation lookup = .ok (some n) := by
  have hvalue : valueOf? lookup notationVariable = some name := by
    rw [valueOf?, hlookup, Option.filter_some, Notation.isBlankText_of_ofName? hname]
    rfl
  simp only [readNotation, hvalue, hname]

/-- Without a value the notation is not fixed. -/
theorem readNotation_of_unset (h : valueOf? lookup notationVariable = none) :
    readNotation lookup = .ok none := by
  simp only [readNotation, h]

theorem valueOf?_congr {name : String} (h : lookup name = lookup' name) :
    valueOf? lookup name = valueOf? lookup' name := by
  rw [valueOf?, valueOf?, h]

/-- Colour is read from its own variable. -/
theorem readColor_congr (h : lookup colorVariable = lookup' colorVariable) :
    readColor lookup = readColor lookup' := by
  rw [readColor, readColor, valueOf?_congr h]

end Settings

end Reckoner
