import Reckoner.Proofs.Grouped.Acceptance
import Reckoner.Proofs.Infixed.Tree

/-!
# The infix notation extends the fully parenthesised one

Of a fully parenthesised expression the automaton of that notation keeps trees,
and the infix automaton keeps chains.  Fed the same lexemes they stay in step
(`follows_grouped`): a group whose operator has been read is a chain of one
product and that operator, and any other group is a chain that is about to
start.  No minus sign waits before a group, so both automata count the same
levels.

What the one accepts the other accepts with the same value
(`evaluate_of_grouped`), and where a group is too deep for the one it is too deep
for the other; this holds of expressions that are wrong further on as well, and of
those that have no end (`evaluate_extends_grouped`).
-/

namespace Reckoner.Infixed

open Grouped (Frame)

/-! ## Groups as chains -/

/-- The chain of the innermost group, before the operand that is being read. -/
def inside : List Frame → Pending
  | [] => .start
  | .left :: _ => .start
  | .right lhs op :: _ => .after [] (.ofSingle lhs.asSingle) op

/-- The chains around that of the innermost group. -/
def around : List Frame → List Pending
  | [] => []
  | _ :: frames => inside frames :: around frames

/-- No minus sign waits for the operand of a group. -/
theorem signs_inside (frames : List Frame) : (inside frames).signs = 0 := by
  rcases frames with _ | ⟨_ | ⟨lhs, op⟩, frames⟩
  · rfl
  · rfl
  · cases op <;> rfl

theorem levels_around (frames : List Frame) : levels (around frames) = frames.length := by
  induction frames with
  | nil => rfl
  | cons frame frames ih =>
    rw [around, levels_cons, signs_inside, ih, List.length_cons]
    omega

theorem signs_add_levels (frames : List Frame) :
    (inside frames).signs + levels (around frames) = frames.length := by
  rw [signs_inside, levels_around, Nat.zero_add]

/-! ## The two automata in step -/

/-- The states of the two automata after the same lexemes. -/
inductive Matches : Grouped.State → State → Prop where
  | operand (frames : List Frame) :
    Matches (.operand frames) (.operand (inside frames) (around frames))
  | operator (frames : List Frame) (lhs : Expression Number) :
    Matches (.operator frames lhs)
      (.rest [] (.ofSingle lhs.asSingle) (inside frames :: around frames))
  | close (frames : List Frame) {t : Expression Number}
      {waiting : List (Derivation .product × Additive)} {last : Derivation .product}
      (h : t.asSingle = .group (regroup waiting (.ofProduct last))) :
    Matches (.close frames t) (.rest waiting last (inside frames :: around frames))
  | complete (t : Expression Number) :
    Matches (.complete t) (.rest [] (.ofSingle t.asSingle) [])

/-- An operand fills the chain of the innermost group. -/
theorem matches_resume (frames : List Frame) (t : Expression Number) :
    Matches (Grouped.resume frames t)
      (.rest (inside frames).waiting ((inside frames).fill t.asSingle) (around frames)) := by
  cases frames with
  | nil => exact .complete t
  | cons frame frames =>
    cases frame with
    | left => exact .operator frames t
    | right lhs op => exact .close frames (by cases op <;> rfl)

variable {limit : Nat} {items : List Lexeme}

theorem matches_step {s s' : Grouped.State} {t : State} {item : Lexeme} (h : Matches s t)
    (hs : (Grouped.automaton limit).step s item = .ok s') :
    ∃ t', (automaton limit).step t item = .ok t' ∧ Matches s' t' := by
  obtain ⟨token, span⟩ := item
  cases Grouped.transition_of_step hs with
  | number frames v =>
    cases h
    exact ⟨_, step_number .., matches_resume frames (.leaf v)⟩
  | leftParen frames hroom =>
    cases h
    have hlevels : (inside frames).signs + levels (around frames) < limit := by
      rwa [signs_add_levels]
    exact ⟨_, step_leftParen span hlevels, .operand (.left :: frames)⟩
  | operator frames lhs op =>
    cases h
    exact ⟨_, step_operator .., .operand (.right lhs op :: frames)⟩
  | rightParen frames tree =>
    cases h with
    | close _ htree =>
      refine ⟨_, step_rightParen .., ?_⟩
      rw [← htree]
      exact matches_resume frames tree

/-- The infix automaton keeps up with that of the fully parenthesised notation. -/
theorem follows_grouped (limit : Nat) :
    (Grouped.automaton limit).Follows (automaton limit) Matches where
  start := .operand []
  step _ _ _ _ h hs := matches_step h hs

/-- Where a group is too deep for the one automaton, it is for the other. -/
theorem matches_step_tooDeep {s : Grouped.State} {t : State} {item : Lexeme} {span : Span}
    (h : Matches s t) (hs : (Grouped.automaton limit).step s item = .error (.tooDeep span)) :
    (automaton limit).step t item = .error (.tooDeep span) := by
  obtain ⟨token, place⟩ := item
  cases h with
  | operand frames =>
    cases token with
    | number v => cases hs
    | operator op => cases hs
    | rightParen => cases hs
    | leftParen =>
      by_cases hroom : frames.length < limit
      · rw [Grouped.step_leftParen hroom] at hs
        cases hs
      · have hfull := Nat.not_lt.1 hroom
        rw [Grouped.step_leftParen_tooDeep hfull] at hs
        cases hs
        exact step_leftParen_tooDeep _ (by rwa [signs_add_levels])
  | operator frames lhs => cases token <;> cases hs
  | close frames htree => cases token <;> cases hs
  | complete tree => cases hs

/-! ## Values and limits -/

/-- What is too deep is found out at one of the lexemes. -/
theorem finish_grouped_ne_tooDeep (s : Grouped.State) (span : Span) :
    (Grouped.automaton limit).finish s ≠ .error (.tooDeep span) := by
  rcases s with (_ | ⟨frame, frames⟩) | ⟨frames, lhs⟩ | ⟨frames, t⟩ | t <;> nofun

theorem evaluate_of_grouped {v : Number} (h : Grouped.evaluate items limit = .ok v) :
    evaluate items limit = .ok v := by
  obtain ⟨t, hs, hd, rfl⟩ := Grouped.evaluate_eq_ok_iff.1 h
  exact evaluate_grouped hs hd

theorem evaluate_tooDeep_of_grouped {span : Span}
    (h : Grouped.evaluate items limit = .error (.tooDeep span)) :
    evaluate items limit = .error (.tooDeep span) := by
  rw [Grouped.evaluate_eq_map_run, Automaton.map_run_eq_error_iff] at h
  rw [evaluate_eq_map_run, Automaton.map_run_eq_error_iff]
  exact (follows_grouped limit).run_eq_error (fun _ _ _ => matches_step_tooDeep)
    (fun s => finish_grouped_ne_tooDeep s span) h

/-- **The infix notation extends the fully parenthesised one.**  Whatever the
limit is, lexemes with a value in the fully parenthesised notation have the same
value in the infix notation, and those that are too deep at some place are too
deep at the same place. -/
theorem evaluate_extends_grouped (items : List Lexeme) (limit : Nat) :
    (∀ v, Grouped.evaluate items limit = .ok v → evaluate items limit = .ok v) ∧
    (∀ span, Grouped.evaluate items limit = .error (.tooDeep span) →
      evaluate items limit = .error (.tooDeep span)) :=
  ⟨fun _ => evaluate_of_grouped, fun _ => evaluate_tooDeep_of_grouped⟩

theorem evaluate_extends_grouped_second_level :
    evaluate [⟨.leftParen, .single 0⟩, ⟨.leftParen, .single 1⟩] 1 =
      .error (.tooDeep (.single 1)) :=
  (evaluate_extends_grouped [⟨.leftParen, .single 0⟩, ⟨.leftParen, .single 1⟩] 1).2 _ rfl

end Reckoner.Infixed
