import Reckoner.Proofs.Settings

/-!
# What each variable gives

The notation and the switch for colour are given by names, in any style
(`Notation.ofName?_eq_some_iff`, `readSwitch?_eq_some_iff`).  The three variables are read
in one way (`readVariable`): a variable gives nothing if it is not set or blank, and
otherwise what its value means (`readVariable_eq_ok_iff`); if that is nothing, the value is
refused (`readVariable_eq_error_iff`).
-/

namespace Reckoner

variable {α : Type} {value : String} {a : α}

/-! ## Names -/

/-- A value means something if it is one of the names of it, in some style. -/
def Means (names : α → List String) (value : String) (a : α) : Prop :=
  ∃ name ∈ names a, Restyled name value

/-- If names are in their folded form, values are compared with them in theirs. -/
theorem means_iff {names : α → List String} (h : ∀ name ∈ names a, folded name = name) :
    Means names value a ↔ folded value ∈ names a := by
  constructor
  · rintro ⟨name, hname, hvalue⟩
    rwa [(folded_eq_iff (h name hname)).2 hvalue]
  · intro hmem
    exact ⟨folded value, hmem, (folded_eq_iff (h _ hmem)).1 rfl⟩

/-- The names of a notation, its number among them. -/
def Notation.names : Notation → List String
  | prefixed => ["1", "prefix"]
  | postfixed => ["2", "postfix"]
  | grouped => ["3", "paren-infix", "paren_infix", "parenthetical", "parenthetical infix"]
  | infixed => ["4", "infix"]

theorem Notation.ofName?_eq_some_iff (value : String) (n : Notation) :
    ofName? value = some n ↔ Means names value n := by
  have hfolded : ∀ name ∈ names n, folded name = name := by
    cases n <;> decide +kernel
  rw [means_iff hfolded, ofName?]
  generalize folded value = name
  split <;> cases n <;> simp_all [names]

namespace Settings

/-- The names of the two positions of a switch. -/
def switchNames : Bool → List String
  | true => ["1", "true", "yes", "on"]
  | false => ["0", "false", "no", "off"]

theorem readSwitch?_eq_some_iff (value : String) (position : Bool) :
    readSwitch? value = some position ↔ Means switchNames value position := by
  have hfolded : ∀ name ∈ switchNames position, folded name = name := by
    cases position <;> decide +kernel
  rw [means_iff hfolded, readSwitch?]
  generalize folded value = name
  split <;> cases position <;> simp_all [switchNames]

/-! ## One variable -/

/-- What a variable says, if anything.  The fault is that of a value which cannot be
read. -/
def readVariable (read? : String → Option α) (fault : String → SettingsFault)
    (held : Option String) : Except SettingsFault (Option α) :=
  match held.filter fun value => !isBlankText value with
  | none => .ok none
  | some value =>
    match read? value with
    | some a => .ok (some a)
    | none => .error (fault value)

/-- What a variable gives.  A blank variable gives as little as one that is not set. -/
inductive Given (means : String → α → Prop) : Option String → Option α → Prop
  /-- The variable is not set. -/
  | unset : Given means none none
  /-- The variable is blank. -/
  | blank {value : String} (h : isBlankText value = true) : Given means (some value) none
  /-- The variable has a value that means something. -/
  | meant {value : String} {a : α} (h : isBlankText value = false) (ha : means value a) :
      Given means (some value) (some a)

/-- The value of a variable is refused: it is not blank and means nothing. -/
structure Refused (means : String → α → Prop) (held : Option String) (value : String) :
    Prop where
  held_eq : held = some value
  not_blank : isBlankText value = false
  meaningless : ∀ a, ¬ means value a

section ReadVariable

variable {read? : String → Option α} {means : String → α → Prop}
  {fault : String → SettingsFault} {held held' : Option String}

theorem readVariable_of_blank (h : isBlankText value = true) :
    readVariable read? fault (some value) = .ok none := by
  rw [readVariable, Option.filter_some, h]
  rfl

theorem readVariable_of_not_blank (h : isBlankText value = false) :
    readVariable read? fault (some value) =
      match read? value with
      | some a => .ok (some a)
      | none => .error (fault value) := by
  rw [readVariable, Option.filter_some, h]
  rfl

theorem Given.readVariable_eq (hread : ∀ value a, read? value = some a ↔ means value a)
    {given : Option α} (h : Given means held given) :
    readVariable read? fault held = .ok given := by
  cases h with
  | unset => rfl
  | blank hblank => exact readVariable_of_blank hblank
  | meant hblank ha => rw [readVariable_of_not_blank hblank, (hread _ _).2 ha]

theorem Refused.readVariable_eq (hread : ∀ value a, read? value = some a ↔ means value a)
    (h : Refused means held value) : readVariable read? fault held = .error (fault value) := by
  obtain ⟨rfl, hblank, hmeaningless⟩ := h
  have hvalue : read? value = none :=
    Option.eq_none_iff_forall_ne_some.2 fun a ha => hmeaningless a ((hread value a).1 ha)
  rw [readVariable_of_not_blank hblank, hvalue]

/-- Every variable gives something or is refused. -/
theorem given_or_refused (means : String → α → Prop) (held : Option String) :
    (∃ given, Given means held given) ∨ ∃ value, Refused means held value := by
  cases held with
  | none => exact .inl ⟨none, .unset⟩
  | some value =>
    cases hblank : isBlankText value with
    | true => exact .inl ⟨none, .blank hblank⟩
    | false =>
      by_cases hmeans : ∃ a, means value a
      · obtain ⟨a, ha⟩ := hmeans
        exact .inl ⟨some a, .meant hblank ha⟩
      · exact .inr ⟨value, rfl, hblank, not_exists.1 hmeans⟩

/-- **A variable is read as what it gives.** -/
theorem readVariable_eq_ok_iff (hread : ∀ value a, read? value = some a ↔ means value a)
    {given : Option α} :
    readVariable read? fault held = .ok given ↔ Given means held given := by
  refine ⟨fun h => ?_, fun h => h.readVariable_eq hread⟩
  obtain ⟨given', hgiven⟩ | ⟨value, hrefused⟩ := given_or_refused means held
  · rw [hgiven.readVariable_eq hread] at h
    cases h
    exact hgiven
  · rw [hrefused.readVariable_eq hread] at h
    cases h

/-- **The fault of a variable is that of its refused value.** -/
theorem readVariable_eq_error_iff (hread : ∀ value a, read? value = some a ↔ means value a)
    {reported : SettingsFault} :
    readVariable read? fault held = .error reported ↔
      ∃ value, Refused means held value ∧ reported = fault value := by
  constructor
  · intro h
    obtain ⟨given, hgiven⟩ | ⟨value, hrefused⟩ := given_or_refused means held
    · rw [hgiven.readVariable_eq hread] at h
      cases h
    · rw [hrefused.readVariable_eq hread] at h
      cases h
      exact ⟨value, hrefused, rfl⟩
  · rintro ⟨value, hrefused, rfl⟩
    exact hrefused.readVariable_eq hread

/-- In another style the value of a variable is read as before, or refused as it is. -/
theorem readVariable_restyled
    (hread : ∀ value other, Restyled value other → read? other = read? value)
    (h : Option.Rel Restyled held held') :
    (∃ given, readVariable read? fault held = .ok given ∧
      readVariable read? fault held' = .ok given) ∨
    ∃ value value', held = some value ∧ held' = some value' ∧
      readVariable read? fault held = .error (fault value) ∧
      readVariable read? fault held' = .error (fault value') := by
  cases h with
  | none => exact .inl ⟨none, rfl, rfl⟩
  | @some value value' hvalue =>
    have hblank := hvalue.isBlankText_eq
    cases hvalue' : isBlankText value with
    | true =>
      rw [hvalue'] at hblank
      exact .inl ⟨none, readVariable_of_blank hvalue', readVariable_of_blank hblank⟩
    | false =>
      rw [hvalue'] at hblank
      rw [readVariable_of_not_blank hvalue', readVariable_of_not_blank hblank,
        hread value value' hvalue]
      cases read? value with
      | some a => exact .inl ⟨some a, rfl, rfl⟩
      | none => exact .inr ⟨value, value', rfl, rfl, rfl, rfl⟩

end ReadVariable

/-! ## The three variables -/

variable {lookup : String → Option String} {fault : SettingsFault}

theorem readNotation_eq (lookup : String → Option String) :
    readNotation lookup =
      readVariable Notation.ofName? .unknownNotation (lookup notationVariable) := by
  unfold readNotation readVariable valueOf?
  cases (lookup notationVariable).filter fun value => !isBlankText value with
  | none => rfl
  | some value =>
    dsimp only
    cases Notation.ofName? value <;> rfl

theorem map_eq_ok_iff {β : Type} {f : α → β} {read : Except SettingsFault α} {b : β} :
    read.map f = .ok b ↔ ∃ a, read = .ok a ∧ b = f a := by
  cases read <;> simp [Except.map, eq_comm]

theorem map_eq_error_iff {β : Type} {f : α → β} {read : Except SettingsFault α} :
    read.map f = .error fault ↔ read = .error fault := by
  cases read <;> simp [Except.map]

/-- Colour is shown unless its variable says otherwise. -/
theorem readColor_eq (lookup : String → Option String) :
    readColor lookup =
      (readVariable readSwitch? (.notASwitch colorVariable) (lookup colorVariable)).map
        (·.getD true) := by
  unfold readColor readVariable valueOf?
  cases (lookup colorVariable).filter fun value => !isBlankText value with
  | none => rfl
  | some value =>
    dsimp only
    cases readSwitch? value <;> rfl

theorem readNotation_eq_ok_iff {fixed : Option Notation} :
    readNotation lookup = .ok fixed ↔
      Given (Means Notation.names) (lookup notationVariable) fixed := by
  rw [readNotation_eq]
  exact readVariable_eq_ok_iff Notation.ofName?_eq_some_iff

theorem readNotation_eq_error_iff :
    readNotation lookup = .error fault ↔
      ∃ value, Refused (Means Notation.names) (lookup notationVariable) value ∧
        fault = .unknownNotation value := by
  rw [readNotation_eq]
  exact readVariable_eq_error_iff Notation.ofName?_eq_some_iff

theorem readColor_eq_ok_iff {color : Bool} :
    readColor lookup = .ok color ↔
      ∃ switch, Given (Means switchNames) (lookup colorVariable) switch ∧
        color = switch.getD true := by
  simp only [readColor_eq, map_eq_ok_iff, readVariable_eq_ok_iff readSwitch?_eq_some_iff]

theorem readColor_eq_error_iff :
    readColor lookup = .error fault ↔
      ∃ value, Refused (Means switchNames) (lookup colorVariable) value ∧
        fault = .notASwitch colorVariable value := by
  rw [readColor_eq, map_eq_error_iff]
  exact readVariable_eq_error_iff readSwitch?_eq_some_iff

/-- A value that is not blank is taken as it is. -/
theorem valueOf?_eq_iff {name : String} {path : Option String} :
    valueOf? lookup name = path ↔ Given Eq (lookup name) path := by
  have hread : readVariable some (.notASwitch name) (lookup name) =
      .ok (valueOf? lookup name) := by
    unfold readVariable valueOf?
    cases (lookup name).filter fun value => !isBlankText value <;> rfl
  rw [← readVariable_eq_ok_iff fun _ _ => Option.some_inj, hread, Except.ok.injEq]

end Settings

end Reckoner
