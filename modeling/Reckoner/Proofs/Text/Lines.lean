import Mathlib.Data.List.Basic
import Reckoner.Text.Lines

/-!
# The lines of a text

The lines of a text are described from the front of the text: a text starts
with a line and its end, or it is a last line without an end.

Main statement: `splitLines` gives the lines that are described so, and no
others (`lines_iff`).
-/

namespace Reckoner

/-! ## The description -/

/-- The lines of a text, without their ends. -/
inductive Lines : List Char → List (List Char) → Prop
  /-- An empty text has no line. -/
  | nil : Lines [] []
  /-- A last line has no end.  A carriage return in it belongs to it. -/
  | last {line : List Char} (hline : line ≠ []) (hfeed : '\n' ∉ line) : Lines line [line]
  /-- A line ends with a line feed. -/
  | feed {line rest : List Char} {lines : List (List Char)} (hfeed : '\n' ∉ line)
      (hreturn : line.getLast? ≠ some '\x0d') (h : Lines rest lines) :
      Lines (line ++ '\n' :: rest) (line :: lines)
  /-- A line ends with a carriage return and a line feed. -/
  | returnFeed {line rest : List Char} {lines : List (List Char)} (hfeed : '\n' ∉ line)
      (h : Lines rest lines) : Lines (line ++ '\x0d' :: '\n' :: rest) (line :: lines)

/-! ## One character at a time -/

variable {line front : List Char} {c : Char}

/-- A character other than a line feed is added to the current line. -/
theorem splitLines_cons (hc : c ≠ '\n') (line : List Char) (done : List (List Char))
    (text : List Char) :
    splitLines line done (c :: text) = splitLines (c :: line) done text := by
  conv => lhs; unfold splitLines
  rw [if_neg hc]

/-- A line feed ends the current line. -/
theorem splitLines_feed (hreturn : line.head? ≠ some '\x0d') (done : List (List Char))
    (text : List Char) :
    splitLines line done ('\n' :: text) = splitLines [] (line.reverse :: done) text := by
  conv => lhs; unfold splitLines
  rw [if_pos rfl]
  split
  · exact absurd rfl hreturn
  · rfl

/-- A carriage return before the line feed is part of the end of the line. -/
theorem splitLines_returnFeed (line : List Char) (done : List (List Char)) (text : List Char) :
    splitLines ('\x0d' :: line) done ('\n' :: text) =
      splitLines [] (line.reverse :: done) text := by
  conv => lhs; unfold splitLines
  exact if_pos rfl

/-! ## The accumulators -/

/-- Characters other than line feeds are added to the current line. -/
theorem splitLines_append (hfeed : '\n' ∉ front) (line : List Char) (done : List (List Char))
    (text : List Char) :
    splitLines line done (front ++ text) = splitLines (front.reverse ++ line) done text := by
  induction front generalizing line with
  | nil => rfl
  | cons c front ih =>
    have hc : c ≠ '\n' := fun h => hfeed (h ▸ List.mem_cons_self)
    have hfront : '\n' ∉ front := fun h => hfeed (List.mem_cons_of_mem _ h)
    rw [List.cons_append, splitLines_cons hc, ih hfront]
    simp

/-- The lines that are done stay as they are. -/
theorem splitLines_done (line : List Char) (done : List (List Char)) (text : List Char) :
    splitLines line done text = done.reverse ++ splitLines line [] text := by
  induction text generalizing line done with
  | nil =>
    unfold splitLines
    split <;> simp
  | cons c text ih =>
    by_cases hc : c = '\n'
    · subst hc
      by_cases hreturn : line.head? = some '\x0d'
      · obtain ⟨line, rfl⟩ := List.head?_eq_some_iff.mp hreturn
        rw [splitLines_returnFeed, splitLines_returnFeed, ih, ih [] [_]]
        simp
      · rw [splitLines_feed hreturn, splitLines_feed hreturn, ih, ih [] [_]]
        simp
    · rw [splitLines_cons hc, splitLines_cons hc, ih]

/-! ## The split is described -/

/-- The split gives the lines that are described. -/
theorem Lines.splitLines_eq {text : List Char} {lines : List (List Char)} (h : Lines text lines) :
    splitLines [] [] text = lines := by
  induction h with
  | nil => rfl
  | @last line hline hfeed =>
    have hsplit := splitLines_append hfeed [] [] []
    rw [List.append_nil, List.append_nil] at hsplit
    rw [hsplit]
    unfold splitLines
    rw [if_neg (by simpa using hline)]
    simp
  | @feed line rest lines hfeed hreturn _ ih =>
    rw [splitLines_append hfeed, splitLines_feed (by simpa using hreturn), splitLines_done, ih]
    simp
  | @returnFeed line rest lines hfeed _ ih =>
    rw [splitLines_append hfeed, splitLines_cons (by decide), splitLines_returnFeed,
      splitLines_done, ih]
    simp

/-- Every text has lines. -/
theorem exists_lines (text : List Char) : ∃ lines, Lines text lines := by
  -- On the length, since a line and its end come off the front at once.
  induction hlength : text.length using Nat.strongRecOn generalizing text with
  | ind length ih =>
    by_cases hfeed : '\n' ∈ text
    · obtain ⟨line, rest, rfl, hline⟩ := List.eq_append_cons_of_mem hfeed
      have hrest : rest.length < length := by
        rw [← hlength, List.length_append, List.length_cons]
        omega
      obtain ⟨lines, hlines⟩ := ih rest.length hrest rest rfl
      by_cases hreturn : line.getLast? = some '\x0d'
      · obtain ⟨front, rfl⟩ := List.getLast?_eq_some_iff.mp hreturn
        have hfront : '\n' ∉ front := fun hmem => hline (List.mem_append_left _ hmem)
        rw [List.append_assoc, List.singleton_append]
        exact ⟨front :: lines, .returnFeed hfront hlines⟩
      · exact ⟨line :: lines, .feed hline hreturn hlines⟩
    · match text with
      | [] => exact ⟨[], .nil⟩
      | c :: rest => exact ⟨[c :: rest], .last (List.cons_ne_nil c rest) hfeed⟩

/-- **The lines of a text are what the split gives.** -/
theorem lines_iff {text : List Char} {lines : List (List Char)} :
    Lines text lines ↔ splitLines [] [] text = lines := by
  refine ⟨Lines.splitLines_eq, fun h => ?_⟩
  obtain ⟨lines', hlines⟩ := exists_lines text
  rwa [← h, hlines.splitLines_eq]

/-- The lines of a string, as strings. -/
theorem lines_iff_linesOf {text : String} {lines : List String} :
    Lines text.toList (lines.map String.toList) ↔ linesOf text = lines := by
  rw [lines_iff, linesOf]
  constructor
  · intro h
    rw [h, List.map_map]
    simp [Function.comp_def]
  · rintro rfl
    simp [Function.comp_def]

end Reckoner
