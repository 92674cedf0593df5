import Reckoner.Proofs.Grouped

/-!
# What the fully parenthesised notation accepts

As for the prefix notation, the open groups of the automaton tell which tokens
have been read.  Exactly the fully parenthesised forms of trees that are not too
high have a value (`evaluate_eq_ok_iff`), and each of them is the form of one
tree (`eq_of_spells`).
-/

namespace Reckoner.Grouped

/-! ## The tokens read so far -/

/-- The tokens read since a group was opened, up to the operand that is being
read. -/
def Frame.tokens : Frame → List Token
  | left => [.leftParen]
  | right lhs op => .leftParen :: (lhs.tokens .grouped ++ [.operator op])

/-- The tokens of open groups, the innermost of which comes last. -/
def frameTokens : List Frame → List Token
  | [] => []
  | frame :: frames => frameTokens frames ++ frame.tokens

/-- That the tokens lead to the state.  The last token of a group is still to
come when its tree is complete. -/
def State.Read : State → List Token → Prop
  | operand frames, tokens => tokens = frameTokens frames
  | operator frames lhs, tokens => tokens = frameTokens frames ++ .leftParen :: lhs.tokens .grouped
  | close frames t, tokens => tokens ++ [.rightParen] = frameTokens frames ++ t.tokens .grouped
  | complete t, tokens => tokens = t.tokens .grouped

/-- An operand adds its tokens. -/
theorem read_resume (frames : List Frame) (t : Expression Number) :
    (resume frames t).Read (frameTokens frames ++ t.tokens .grouped) := by
  cases frames with
  | nil => rfl
  | cons frame frames =>
    cases frame with
    | left => simp [resume, State.Read, frameTokens, Frame.tokens]
    | right lhs op =>
      simp [resume, State.Read, frameTokens, Frame.tokens, Expression.tokens_grouped_node]

theorem read_step {limit : Nat} {s s' : State} {tokens : List Token} {item : Lexeme}
    (hs : s.Read tokens) (h : (automaton limit).step s item = .ok s') :
    s'.Read (tokens ++ [item.token]) := by
  obtain ⟨token, span⟩ := item
  cases transition_of_step h with
  | number frames v =>
    obtain rfl : tokens = frameTokens frames := hs
    exact read_resume frames (.leaf v)
  | leftParen frames _ =>
    obtain rfl : tokens = frameTokens frames := hs
    rfl
  | operator frames lhs op =>
    obtain rfl : tokens = frameTokens frames ++ .leftParen :: lhs.tokens .grouped := hs
    simp [State.Read, frameTokens, Frame.tokens]
  | rightParen frames t =>
    rw [show tokens ++ [.rightParen] = frameTokens frames ++ t.tokens .grouped from hs]
    exact read_resume frames t

theorem records_automaton (limit : Nat) :
    (automaton limit).Records State.Read (fun t tokens => t.tokens .grouped = tokens) where
  start := rfl
  step _ _ _ _ hs h := read_step hs h
  finish := by
    rintro ((_ | ⟨frame, frames⟩) | ⟨frames, lhs⟩ | ⟨frames, t⟩ | t) tokens a hs h <;> cases h
    exact hs.symm

/-! ## Accepted lists -/

variable {limit : Nat} {items : List Lexeme}

theorem parses_automaton :
    Automaton.Parses automaton (Expression.tokens .grouped) Expression.height where
  reads limit _ _ h := ((records_automaton limit).run h).symm
  accepts limit items t hs hd := by
    have hfits : ([] : List Frame).length + t.height ≤ limit := by simpa using hd
    exact Automaton.run_of_feed (feed_grouped [] hs hfits)
  refuses limit items t hs hlt := by
    have hhigh : limit < ([] : List Frame).length + t.height := by simpa using hlt
    obtain ⟨path, item, -, -, hf⟩ := feed_grouped_tooDeep [] hs (Nat.zero_le limit) hhigh
    exact ⟨_, Automaton.run_of_feed_error hf⟩

/-- **The notation evaluates fully parenthesised forms**, those of trees that are
not too high. -/
theorem evaluate_eq_ok_iff {v : Number} : evaluate items limit = .ok v ↔
    ∃ t : Expression Number, Spells items t.grouped ∧ t.height ≤ limit ∧ t.value = v := by
  rw [evaluate_eq_map_run]
  exact parses_automaton.map_run_eq_ok_iff

/-- A fully parenthesised form can be read in one way only. -/
theorem eq_of_spells {t t' : Expression Number} (h : Spells items t.grouped)
    (h' : Spells items t'.grouped) : t = t' :=
  parses_automaton.eq_of_tokens_eq (h.symm.trans h')

/-! ## Empty expressions -/

theorem finish_resume_ne_empty (limit : Nat) (frames : List Frame) (t : Expression Number) :
    (automaton limit).finish (resume frames t) ≠ .error .empty := by
  rcases frames with _ | ⟨_ | ⟨lhs, op⟩, frames⟩ <;> nofun

theorem finish_step_ne_empty {s s' : State} {item : Lexeme}
    (h : (automaton limit).step s item = .ok s') :
    (automaton limit).finish s' ≠ .error .empty := by
  obtain ⟨token, span⟩ := item
  cases transition_of_step h with
  | number frames v => exact finish_resume_ne_empty limit frames (.leaf v)
  | leftParen frames _ => nofun
  | operator frames lhs op => nofun
  | rightParen frames t => exact finish_resume_ne_empty limit frames t

/-- Only without lexemes is a fully parenthesised expression empty. -/
theorem evaluate_eq_empty_iff : evaluate items limit = .error .empty ↔ items = [] := by
  rw [evaluate_eq_map_run, Automaton.map_run_eq_error_iff]
  exact (viable_automaton limit).run_eq_empty_iff rfl fun _ _ _ => finish_step_ne_empty

end Reckoner.Grouped
