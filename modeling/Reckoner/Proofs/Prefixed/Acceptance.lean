import Reckoner.Proofs.Prefixed

/-!
# What the prefix notation accepts

The frames of the automaton tell which tokens have been read, so a run that
succeeds has read the prefix form of the tree it gives.  Together with the runs
on written trees this says that exactly the prefix forms of trees that are not
too high have a value (`evaluate_eq_ok_iff`), and that no list of tokens is the
prefix form of two trees (`eq_of_spells`).
-/

namespace Reckoner.Prefixed

/-! ## The tokens read so far -/

/-- The tokens read since a frame was opened, up to the operand that is being
read. -/
def Frame.tokens : Frame → List Token
  | first op => [.operator op]
  | second op lhs => .operator op :: lhs.tokens .prefixed

/-- The tokens of frames, the innermost of which comes last. -/
def frameTokens : List Frame → List Token
  | [] => []
  | frame :: frames => frameTokens frames ++ frame.tokens

/-- The tokens that lead to a state. -/
def State.tokens : State → List Token
  | operand frames => frameTokens frames
  | complete t => t.tokens .prefixed

/-- An operand adds its tokens, whatever it completes. -/
theorem tokens_resume (frames : List Frame) (t : Expression Number) :
    (resume frames t).tokens = frameTokens frames ++ t.tokens .prefixed := by
  induction frames generalizing t with
  | nil => rfl
  | cons frame frames ih =>
    cases frame with
    | first op => simp [resume, State.tokens, frameTokens, Frame.tokens]
    | second op lhs =>
      rw [resume, ih, Expression.tokens_prefixed_node]
      simp [frameTokens, Frame.tokens]

theorem tokens_step {limit : Nat} {s s' : State} {item : Lexeme}
    (h : (automaton limit).step s item = .ok s') : s'.tokens = s.tokens ++ [item.token] := by
  obtain ⟨token, span⟩ := item
  cases transition_of_step h with
  | number frames v => exact tokens_resume frames (.leaf v)
  | operator frames op _ => rfl

theorem records_automaton (limit : Nat) :
    (automaton limit).Records (fun s tokens => s.tokens = tokens)
      (fun t tokens => t.tokens .prefixed = tokens) where
  start := rfl
  step := by
    rintro s _ item s' rfl h
    exact tokens_step h
  finish := by
    rintro ((_ | ⟨frame, frames⟩) | t) _ a rfl h <;> cases h
    rfl

/-! ## Accepted lists -/

variable {limit : Nat} {items : List Lexeme}

theorem parses_automaton :
    Automaton.Parses automaton (Expression.tokens .prefixed) Expression.height where
  reads limit _ _ h := ((records_automaton limit).run h).symm
  accepts limit items t hs hd := by
    have hfits : ([] : List Frame).length + t.height ≤ limit := by simpa using hd
    exact Automaton.run_of_feed (feed_prefixed [] hs hfits)
  refuses limit items t hs hlt := by
    have hhigh : limit < ([] : List Frame).length + t.height := by simpa using hlt
    obtain ⟨path, op, item, -, -, hf⟩ := feed_prefixed_tooDeep [] hs (Nat.zero_le limit) hhigh
    exact ⟨_, Automaton.run_of_feed_error hf⟩

/-- **The prefix notation evaluates prefix forms**, those of trees that are not
too high. -/
theorem evaluate_eq_ok_iff {v : Number} : evaluate items limit = .ok v ↔
    ∃ t : Expression Number, Spells items t.prefixed ∧ t.height ≤ limit ∧ t.value = v := by
  rw [evaluate_eq_map_run]
  exact parses_automaton.map_run_eq_ok_iff

/-- A prefix form can be read in one way only. -/
theorem eq_of_spells {t t' : Expression Number} (h : Spells items t.prefixed)
    (h' : Spells items t'.prefixed) : t = t' :=
  parses_automaton.eq_of_tokens_eq (h.symm.trans h')

/-! ## Empty expressions -/

theorem finish_resume_ne_empty (limit : Nat) (frames : List Frame) (t : Expression Number) :
    (automaton limit).finish (resume frames t) ≠ .error .empty := by
  induction frames generalizing t with
  | nil => nofun
  | cons frame frames ih =>
    cases frame with
    | first op => nofun
    | second op lhs => exact ih (.node op lhs t)

theorem finish_step_ne_empty {s s' : State} {item : Lexeme}
    (h : (automaton limit).step s item = .ok s') :
    (automaton limit).finish s' ≠ .error .empty := by
  obtain ⟨token, span⟩ := item
  cases transition_of_step h with
  | number frames v => exact finish_resume_ne_empty limit frames (.leaf v)
  | operator frames op _ => nofun

/-- Only without lexemes is a prefix expression empty. -/
theorem evaluate_eq_empty_iff : evaluate items limit = .error .empty ↔ items = [] := by
  rw [evaluate_eq_map_run, Automaton.map_run_eq_error_iff]
  exact (viable_automaton limit).run_eq_empty_iff rfl fun _ _ _ => finish_step_ne_empty

end Reckoner.Prefixed
