import Mathlib.Data.List.Forall2
import Mathlib.Data.List.TakeWhile
import Reckoner.Text.Blank

/-!
# Texts with blanks around them

Trimming takes away all blanks at the two ends of a text and nothing else (`trimmed_iff`).
The folded form of a text is the same for all texts that differ from it in blanks around
it and in the case of ASCII letters (`Restyled.folded_eq`), and for no others
(`folded_eq_iff`).
-/

namespace Reckoner

variable {text kept before after : List Char} {c d : Char}

/-! ## Trimming -/

/-- A text is another one with blanks before and after it. -/
def Padded (text kept : List Char) : Prop :=
  ∃ before after, text = before ++ kept ++ after ∧
    (∀ c ∈ before, isBlank c = true) ∧ ∀ c ∈ after, isBlank c = true

/-- What is left of a text without the blanks at its two ends. -/
structure Trimmed (text kept : List Char) : Prop where
  padded : Padded text kept
  first_not_blank : ∀ c ∈ kept.head?, isBlank c = false
  last_not_blank : ∀ c ∈ kept.getLast?, isBlank c = false

theorem trimChars_append_right (h : ∀ c ∈ after, isBlank c = true) :
    trimChars (text ++ after) = trimChars text := by
  have hreverse : ∀ c ∈ after.reverse, isBlank c = true := fun c hc => h c (List.mem_reverse.1 hc)
  unfold trimChars
  rw [List.dropWhile_append]
  split
  · next hempty =>
    rw [List.dropWhile_eq_nil_iff.2 h, List.isEmpty_iff.1 hempty]
  · rw [List.reverse_append, List.dropWhile_append_of_pos hreverse]

/-- Blanks around a text do not matter for what is left of it. -/
theorem Padded.trimChars_eq (h : Padded text kept) : trimChars text = trimChars kept := by
  obtain ⟨before, after, rfl, hbefore, hafter⟩ := h
  rw [trimChars_append_right hafter]
  unfold trimChars
  rw [List.dropWhile_append_of_pos hbefore]

theorem dropWhile_of_head? (h : ∀ c ∈ text.head?, isBlank c = false) :
    text.dropWhile isBlank = text := by
  cases text with
  | nil => rfl
  | cons c rest => exact List.dropWhile_cons_of_neg (by simpa using h c rfl)

theorem head?_dropWhile (text : List Char) :
    ∀ c ∈ (text.dropWhile isBlank).head?, isBlank c = false := by
  intro c hc
  have hnot := List.head?_dropWhile_not isBlank text
  rw [Option.mem_def.1 hc] at hnot
  exact hnot

/-- What is trimmed is cut off by trimming. -/
theorem Trimmed.trimChars_eq (h : Trimmed text kept) : trimChars text = kept := by
  have hlast : ∀ c ∈ kept.reverse.head?, isBlank c = false := by
    rw [List.head?_reverse]
    exact h.last_not_blank
  rw [h.padded.trimChars_eq, trimChars, dropWhile_of_head? h.first_not_blank,
    dropWhile_of_head? hlast, List.reverse_reverse]

theorem trimmed_trimChars (text : List Char) : Trimmed text (trimChars text) := by
  obtain ⟨before, hbefore⟩ : ∃ before, before = text.takeWhile isBlank := ⟨_, rfl⟩
  obtain ⟨rest, hrest⟩ : ∃ rest, rest = text.dropWhile isBlank := ⟨_, rfl⟩
  obtain ⟨after, hafter⟩ : ∃ after, after = (rest.reverse.takeWhile isBlank).reverse := ⟨_, rfl⟩
  have htrim : trimChars text = (rest.reverse.dropWhile isBlank).reverse := by
    rw [trimChars, hrest]
  have hsplit : trimChars text ++ after = rest := by
    rw [htrim, hafter, ← List.reverse_append, List.takeWhile_append_dropWhile,
      List.reverse_reverse]
  refine ⟨⟨before, after, ?_, ?_, ?_⟩, fun c hc => ?_, fun c hc => ?_⟩
  · rw [List.append_assoc, hsplit, hbefore, hrest, List.takeWhile_append_dropWhile]
  · rw [hbefore]
    exact List.all_eq_true.1 List.all_takeWhile
  · intro c hc
    rw [hafter, List.mem_reverse] at hc
    exact List.all_eq_true.1 List.all_takeWhile c hc
  · have hfirst : c ∈ rest.head? := by
      rw [← hsplit]
      exact List.mem_head?_append_of_mem_head? hc
    rw [hrest] at hfirst
    exact head?_dropWhile text c hfirst
  · rw [htrim, List.getLast?_reverse] at hc
    exact head?_dropWhile rest.reverse c hc

/-- **Trimming cuts off the blanks at the two ends and nothing else.** -/
theorem trimmed_iff : Trimmed text kept ↔ trimChars text = kept :=
  ⟨Trimmed.trimChars_eq, fun h => h ▸ trimmed_trimChars text⟩

/-- Nothing is left of a blank text when it is trimmed. -/
theorem trimChars_of_blank {text : List Char} (h : text.all isBlank) : trimChars text = [] := by
  have hdrop : text.dropWhile isBlank = [] :=
    List.dropWhile_eq_nil_iff.mpr fun c hc => List.all_eq_true.mp h c hc
  rw [trimChars, hdrop]
  rfl

/-! ## The case of letters -/

/-- Only the characters of ASCII have another case. -/
theorem exists_ascii_or (c : Char) :
    (∃ n : Fin 128, Char.ofNat n = c) ∨ c.toLower = c ∧ c.toUpper = c := by
  by_cases hascii : c.toNat < 128
  · exact .inl ⟨⟨c.toNat, hascii⟩, c.ofNat_toNat⟩
  · right
    have hval : ¬ c.val.toNat < 128 := hascii
    constructor
    · refine dif_neg fun hupper => hval ?_
      exact Nat.lt_of_le_of_lt (UInt32.le_iff_toNat_le.1 hupper.2) (by decide)
    · refine dif_neg fun hlower => hval ?_
      exact Nat.lt_of_le_of_lt (UInt32.le_iff_toNat_le.1 hlower.2) (by decide)

/-- The case of a character does not make it blank. -/
theorem isBlank_toLower (c : Char) : isBlank c.toLower = isBlank c := by
  have hascii : ∀ n : Fin 128, isBlank (Char.ofNat n).toLower = isBlank (Char.ofNat n) := by
    decide +kernel
  rcases exists_ascii_or c with ⟨n, rfl⟩ | ⟨hlower, -⟩
  · exact hascii n
  · rw [hlower]

/-- Two characters are the same apart from the case of an ASCII letter. -/
def SameLetter (c d : Char) : Prop := d = c ∨ d = c.toLower ∨ d = c.toUpper

instance (c d : Char) : Decidable (SameLetter c d) := inferInstanceAs (Decidable (_ ∨ _ ∨ _))

theorem SameLetter.toLower_eq (h : SameLetter c d) : d.toLower = c.toLower := by
  have hascii : ∀ n : Fin 128, (Char.ofNat n).toLower.toLower = (Char.ofNat n).toLower ∧
      (Char.ofNat n).toUpper.toLower = (Char.ofNat n).toLower := by
    decide +kernel
  rcases exists_ascii_or c with ⟨n, rfl⟩ | ⟨hlower, hupper⟩
  · rcases h with rfl | rfl | rfl
    · rfl
    · exact (hascii n).1
    · exact (hascii n).2
  · rcases h with rfl | rfl | rfl
    · rfl
    · rw [hlower, hlower]
    · rw [hupper]

theorem sameLetter_toLower (c : Char) : SameLetter c.toLower c := by
  have hascii : ∀ n : Fin 128, SameLetter (Char.ofNat n).toLower (Char.ofNat n) := by
    decide +kernel
  rcases exists_ascii_or c with ⟨n, rfl⟩ | ⟨hlower, -⟩
  · exact hascii n
  · exact .inl hlower.symm

theorem map_toLower_eq (h : List.Forall₂ SameLetter text kept) :
    kept.map Char.toLower = text.map Char.toLower := by
  induction h with
  | nil => rfl
  | cons hletter _ ih => rw [List.map_cons, List.map_cons, hletter.toLower_eq, ih]

theorem forall₂_sameLetter_map_toLower (text : List Char) :
    List.Forall₂ SameLetter (text.map Char.toLower) text := by
  induction text with
  | nil => exact .nil
  | cons c rest ih => exact .cons (sameLetter_toLower c) ih

/-! ## Folded texts -/

theorem dropWhile_map_toLower (text : List Char) :
    (text.map Char.toLower).dropWhile isBlank = (text.dropWhile isBlank).map Char.toLower := by
  have hblank : isBlank ∘ Char.toLower = isBlank := funext isBlank_toLower
  rw [List.dropWhile_map, hblank]

/-- It makes no difference whether a text is trimmed before or after its letters are put
in lower case. -/
theorem trimChars_map_toLower (text : List Char) :
    trimChars (text.map Char.toLower) = (trimChars text).map Char.toLower := by
  unfold trimChars
  rw [dropWhile_map_toLower, ← List.map_reverse, dropWhile_map_toLower, List.map_reverse]

theorem all_isBlank_map_toLower (text : List Char) :
    (text.map Char.toLower).all isBlank = text.all isBlank := by
  have hblank : isBlank ∘ Char.toLower = isBlank := funext isBlank_toLower
  rw [List.all_map, hblank]

/-- A text in another style: any of its ASCII letters in the other case, and blanks before
and after it. -/
def Restyled (text other : String) : Prop :=
  ∃ recased, List.Forall₂ SameLetter text.toList recased ∧ Padded other.toList recased

variable {name value other : String}

/-- Folding undoes a change of style. -/
theorem Restyled.folded_eq (h : Restyled value other) : folded other = folded value := by
  obtain ⟨recased, hletters, hpadded⟩ := h
  unfold folded
  rw [hpadded.trimChars_eq, ← trimChars_map_toLower, ← trimChars_map_toLower,
    map_toLower_eq hletters]

theorem Padded.all_isBlank_eq (h : Padded text kept) : text.all isBlank = kept.all isBlank := by
  obtain ⟨before, after, rfl, hbefore, hafter⟩ := h
  rw [List.all_append, List.all_append, List.all_eq_true.2 hbefore, List.all_eq_true.2 hafter,
    Bool.true_and, Bool.and_true]

theorem Restyled.isBlankText_eq (h : Restyled value other) :
    isBlankText other = isBlankText value := by
  obtain ⟨recased, hletters, hpadded⟩ := h
  unfold isBlankText
  rw [hpadded.all_isBlank_eq, ← all_isBlank_map_toLower, map_toLower_eq hletters,
    all_isBlank_map_toLower]

/-- **A text folds to a name exactly if it is the name in some style.** -/
theorem folded_eq_iff (hname : folded name = name) :
    folded value = name ↔ Restyled name value := by
  constructor
  · rintro rfl
    refine ⟨trimChars value.toList, ?_, (trimmed_trimChars _).padded⟩
    rw [folded, String.toList_ofList]
    exact forall₂_sameLetter_map_toLower _
  · intro h
    rw [h.folded_eq, hname]

end Reckoner
