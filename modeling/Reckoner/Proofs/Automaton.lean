import Reckoner.Fault

/-!
# Automata that are fed lexemes

An automaton takes lexemes one at a time and gives a result when no more come.
Where a reading pulls lexemes from a cursor, an automaton is pushed from one
state to the next, so everything it knows about the lexemes it has seen lies in
its state.

The main statements are about faults.  `runFrom_eq_error_iff` says that a run
fails either at one lexeme, whatever comes after it, or at the end.
`Viable.located` draws the consequence for automata that never enter a state
without a way to success: a fault with a span lies at the first lexeme that
cannot be part of anything accepted, and a fault without one says that more
lexemes are needed.
-/

namespace Reckoner

/-- A machine that is fed lexemes. -/
structure Automaton (σ α : Type) where
  /-- The state before the first lexeme. -/
  start : σ
  /-- What one lexeme does to a state. -/
  step : σ → Lexeme → Except Fault σ
  /-- The result when no lexeme is left. -/
  finish : σ → Except Fault α

namespace Automaton

variable {σ α : Type} (A : Automaton σ α)

/-! ## Runs -/

/-- The state after a list of lexemes. -/
def feed (s : σ) : List Lexeme → Except Fault σ
  | [] => .ok s
  | item :: items =>
    match A.step s item with
    | .ok s => feed s items
    | .error fault => .error fault

/-- The result after a list of lexemes. -/
def runFrom (s : σ) (items : List Lexeme) : Except Fault α :=
  match A.feed s items with
  | .ok s => A.finish s
  | .error fault => .error fault

/-- The result of a whole run. -/
def run (items : List Lexeme) : Except Fault α := A.runFrom A.start items

variable {A} {s s' : σ} {item : Lexeme} {items : List Lexeme} {fault : Fault} {a : α}

theorem feed_cons (h : A.step s item = .ok s') : A.feed s (item :: items) = A.feed s' items := by
  rw [feed, h]

theorem feed_cons_error (h : A.step s item = .error fault) :
    A.feed s (item :: items) = .error fault := by
  rw [feed, h]

theorem feed_append (h : A.feed s items = .ok s') (more : List Lexeme) :
    A.feed s (items ++ more) = A.feed s' more := by
  induction items generalizing s with
  | nil => cases h; rfl
  | cons item items ih =>
    cases hs : A.step s item with
    | ok s₁ =>
      rw [feed_cons hs] at h
      rw [List.cons_append, feed_cons hs, ih h]
    | error fault =>
      rw [feed_cons_error hs] at h
      cases h

/-- A run that has failed has failed for good. -/
theorem feed_append_error (h : A.feed s items = .error fault) (more : List Lexeme) :
    A.feed s (items ++ more) = .error fault := by
  induction items generalizing s with
  | nil => cases h
  | cons item items ih =>
    cases hs : A.step s item with
    | ok s₁ =>
      rw [feed_cons hs] at h
      rw [List.cons_append, feed_cons hs, ih h]
    | error fault' =>
      rw [feed_cons_error hs] at h
      rw [List.cons_append, feed_cons_error hs, h]

/-- What is fed without a fault passes through a state at each place. -/
theorem feed_append_eq_ok {more : List Lexeme} (h : A.feed s (items ++ more) = .ok s') :
    ∃ s₁, A.feed s items = .ok s₁ ∧ A.feed s₁ more = .ok s' := by
  cases hf : A.feed s items with
  | ok s₁ => exact ⟨s₁, rfl, by rwa [feed_append hf] at h⟩
  | error fault =>
    rw [feed_append_error hf] at h
    cases h

theorem feed_cons_eq_ok (h : A.feed s (item :: items) = .ok s') :
    ∃ s₁, A.step s item = .ok s₁ ∧ A.feed s₁ items = .ok s' := by
  cases hs : A.step s item with
  | ok s₁ => exact ⟨s₁, rfl, by rwa [feed_cons hs] at h⟩
  | error fault =>
    rw [feed_cons_error hs] at h
    cases h

/-- The states around one of the lexemes that are fed without a fault. -/
theorem feed_append_cons_eq_ok {more : List Lexeme}
    (h : A.feed s (items ++ item :: more) = .ok s') : ∃ s₁ s₂,
      A.feed s items = .ok s₁ ∧ A.step s₁ item = .ok s₂ ∧ A.feed s₂ more = .ok s' := by
  obtain ⟨s₁, hf, hrest⟩ := feed_append_eq_ok h
  obtain ⟨s₂, hs, hmore⟩ := feed_cons_eq_ok hrest
  exact ⟨s₁, s₂, hf, hs, hmore⟩

@[simp] theorem runFrom_nil : A.runFrom s [] = A.finish s := rfl

theorem runFrom_cons (h : A.step s item = .ok s') :
    A.runFrom s (item :: items) = A.runFrom s' items := by
  rw [runFrom, feed_cons h, runFrom]

theorem runFrom_cons_error (h : A.step s item = .error fault) :
    A.runFrom s (item :: items) = .error fault := by
  rw [runFrom, feed_cons_error h]

theorem runFrom_append (h : A.feed s items = .ok s') (more : List Lexeme) :
    A.runFrom s (items ++ more) = A.runFrom s' more := by
  rw [runFrom, feed_append h, runFrom]

theorem run_of_feed (h : A.feed A.start items = .ok s) : A.run items = A.finish s := by
  rw [run, runFrom, h]

theorem run_of_feed_error (h : A.feed A.start items = .error fault) :
    A.run items = .error fault := by
  rw [run, runFrom, h]

theorem run_eq_ok (h : A.run items = .ok a) :
    ∃ s, A.feed A.start items = .ok s ∧ A.finish s = .ok a := by
  cases hf : A.feed A.start items with
  | ok s => exact ⟨s, rfl, by rwa [run_of_feed hf] at h⟩
  | error fault =>
    rw [run_of_feed_error hf] at h
    cases h

/-- A result that is made from that of a run. -/
theorem map_run_eq_ok_iff {β : Type} {value : α → β} {b : β} :
    (A.run items).map value = .ok b ↔ ∃ a, A.run items = .ok a ∧ value a = b := by
  constructor
  · intro h
    cases hr : A.run items with
    | ok a =>
      rw [hr] at h
      exact ⟨a, rfl, Except.ok.inj h⟩
    | error fault =>
      rw [hr] at h
      cases h
  · rintro ⟨a, hr, rfl⟩
    rw [hr]
    rfl

theorem map_run_eq_error_iff {β : Type} {value : α → β} :
    (A.run items).map value = .error fault ↔ A.run items = .error fault := by
  cases A.run items with
  | ok a => exact ⟨nofun, nofun⟩
  | error fault' => exact ⟨fun h => by cases h; rfl, fun h => by cases h; rfl⟩

/-- What comes after a run that has given a result is refused, if no state with
a result can go on. -/
theorem map_run_append_cons_error {β : Type} {value : α → β} {b : β}
    (h : (A.run items).map value = .ok b)
    (hstep : ∀ s a, A.finish s = .ok a → A.step s item = .error fault) (more : List Lexeme) :
    (A.run (items ++ item :: more)).map value = .error fault := by
  obtain ⟨a, hrun, -⟩ := map_run_eq_ok_iff.1 h
  obtain ⟨s, hf, hfinish⟩ := run_eq_ok hrun
  rw [map_run_eq_error_iff, run, runFrom_append hf, runFrom_cons_error (hstep s a hfinish)]

/-- A run over at least one lexeme ends with a step. -/
theorem exists_step_of_feed (h : A.feed s items = .ok s') (hne : items ≠ []) :
    ∃ s₁ item, A.step s₁ item = .ok s' := by
  induction items generalizing s with
  | nil => exact absurd rfl hne
  | cons item items ih =>
    cases hs : A.step s item with
    | error fault =>
      rw [feed_cons_error hs] at h
      cases h
    | ok s₁ =>
      rw [feed_cons hs] at h
      by_cases hlast : items = []
      · subst hlast
        cases h
        exact ⟨s, item, hs⟩
      · exact ih h hlast

/-! ## What has been read -/

/-- The states of an automaton keep a record of the tokens that led to them:
`read` is an invariant of a state and its tokens, and `result` follows from it
for what the automaton gives at the end. -/
structure Records (A : Automaton σ α) (read : σ → List Token → Prop)
    (result : α → List Token → Prop) : Prop where
  start : read A.start []
  step : ∀ s tokens item s', read s tokens → A.step s item = .ok s' →
    read s' (tokens ++ [item.token])
  finish : ∀ s tokens a, read s tokens → A.finish s = .ok a → result a tokens

namespace Records

variable {read : σ → List Token → Prop} {result : α → List Token → Prop}
  (hA : A.Records read result)

include hA

theorem feed {tokens : List Token} (hs : read s tokens) (h : A.feed s items = .ok s') :
    read s' (tokens ++ items.map Lexeme.token) := by
  induction items generalizing s tokens with
  | nil =>
    cases h
    rwa [List.map_nil, List.append_nil]
  | cons item items ih =>
    cases hstep : A.step s item with
    | ok s₁ =>
      rw [feed_cons hstep] at h
      have hread := ih (hA.step s tokens item s₁ hs hstep) h
      rwa [List.append_assoc] at hread
    | error fault =>
      rw [feed_cons_error hstep] at h
      cases h

/-- What a run gives is related to the tokens it has been fed. -/
theorem run (h : A.run items = .ok a) : result a (items.map Lexeme.token) := by
  obtain ⟨s, hf, hfinish⟩ := run_eq_ok h
  exact hA.finish s _ a (hA.feed hA.start hf) hfinish

end Records

/-! ## Two automata -/

/-- The automaton `B` keeps up with `A`: each step of `A` is one of `B`, and takes
related states to related states. -/
structure Follows {τ β : Type} (A : Automaton σ α) (B : Automaton τ β)
    (related : σ → τ → Prop) : Prop where
  start : related A.start B.start
  step : ∀ s t item s', related s t → A.step s item = .ok s' →
    ∃ t', B.step t item = .ok t' ∧ related s' t'

namespace Follows

variable {τ β : Type} {B : Automaton τ β} {related : σ → τ → Prop}
  (hAB : A.Follows B related)

include hAB

theorem feed {t : τ} (hst : related s t) (h : A.feed s items = .ok s') :
    ∃ t', B.feed t items = .ok t' ∧ related s' t' := by
  induction items generalizing s t with
  | nil =>
    cases h
    exact ⟨t, rfl, hst⟩
  | cons item items ih =>
    obtain ⟨s₁, hs, hrest⟩ := feed_cons_eq_ok h
    obtain ⟨t₁, ht, hst₁⟩ := hAB.step s t item s₁ hst hs
    obtain ⟨t', hfeed, hst'⟩ := ih hst₁ hrest
    exact ⟨t', by rw [feed_cons ht, hfeed], hst'⟩

end Follows

/-! ## Phrases -/

/-- The automata `A limit` give back the phrases they are fed, those that are not
larger than the limit. -/
structure Parses (A : Nat → Automaton σ α) (tokens : α → List Token) (size : α → Nat) :
    Prop where
  reads : ∀ limit items a, (A limit).run items = .ok a → items.map Lexeme.token = tokens a
  accepts : ∀ limit items a, items.map Lexeme.token = tokens a → size a ≤ limit →
    (A limit).run items = .ok a
  refuses : ∀ limit items a, items.map Lexeme.token = tokens a → limit < size a →
    ∃ fault, (A limit).run items = .error fault

namespace Parses

variable {A : Nat → Automaton σ α} {tokens : α → List Token} {size : α → Nat}
  (hA : Parses A tokens size)

include hA

/-- A run gives exactly the phrase it has been fed, if that is not too large. -/
theorem run_eq_ok_iff {limit : Nat} :
    (A limit).run items = .ok a ↔ items.map Lexeme.token = tokens a ∧ size a ≤ limit := by
  constructor
  · intro h
    have htokens := hA.reads limit items a h
    refine ⟨htokens, Nat.le_of_not_lt fun hlt => ?_⟩
    obtain ⟨fault, hf⟩ := hA.refuses limit items a htokens hlt
    rw [h] at hf
    cases hf
  · rintro ⟨htokens, hle⟩
    exact hA.accepts limit items a htokens hle

theorem map_run_eq_ok_iff {limit : Nat} {β : Type} {value : α → β} {b : β} :
    ((A limit).run items).map value = .ok b ↔
      ∃ a, items.map Lexeme.token = tokens a ∧ size a ≤ limit ∧ value a = b := by
  rw [Automaton.map_run_eq_ok_iff]
  simp only [hA.run_eq_ok_iff, and_assoc]

/-- A phrase is determined by its tokens. -/
theorem eq_of_tokens_eq {b : α} (h : tokens a = tokens b) : a = b := by
  -- one run, with room for both, gives back both of them
  have spelled : ((tokens a).map fun token => (⟨token, .single 0⟩ : Lexeme)).map Lexeme.token =
      tokens a := by
    rw [List.map_map]
    exact List.map_id _
  have hrun := hA.run_eq_ok_iff.2 ⟨spelled, Nat.le_max_left (size a) (size b)⟩
  have hrun' := hA.run_eq_ok_iff.2 ⟨spelled.trans h, Nat.le_max_right (size a) (size b)⟩
  rw [hrun] at hrun'
  exact Except.ok.inj hrun'

end Parses

/-! ## Where a run fails -/

/-- A list of lexemes fails at one of them. -/
theorem exists_of_feed_eq_error (h : A.feed s items = .error fault) :
    ∃ before item after s', items = before ++ item :: after ∧ A.feed s before = .ok s' ∧
      A.step s' item = .error fault := by
  induction items generalizing s with
  | nil => cases h
  | cons item items ih =>
    cases hs : A.step s item with
    | ok s₁ =>
      rw [feed_cons hs] at h
      obtain ⟨before, bad, after, s', rfl, hf, hb⟩ := ih h
      exact ⟨item :: before, bad, after, s', rfl, by rw [feed_cons hs, hf], hb⟩
    | error fault' =>
      rw [feed_cons_error hs] at h
      cases h
      exact ⟨[], item, items, s, rfl, rfl, hs⟩

/-- A run fails at one lexeme or at the end. -/
theorem runFrom_eq_error_iff : A.runFrom s items = .error fault ↔
    (∃ before item after s', items = before ++ item :: after ∧ A.feed s before = .ok s' ∧
      A.step s' item = .error fault) ∨
    ∃ s', A.feed s items = .ok s' ∧ A.finish s' = .error fault := by
  constructor
  · intro h
    cases hf : A.feed s items with
    | ok s' => exact .inr ⟨s', rfl, by rwa [runFrom, hf] at h⟩
    | error fault' =>
      rw [runFrom, hf] at h
      cases h
      exact .inl (exists_of_feed_eq_error hf)
  · rintro (⟨before, item, after, s', rfl, hf, hs⟩ | ⟨s', hf, hs⟩)
    · rw [runFrom_append hf, runFrom_cons_error hs]
    · rw [runFrom, hf]
      exact hs

/-- A fault of a step of `A` is one of each automaton that keeps up with `A` and
has this fault at the same step. -/
theorem Follows.run_eq_error {τ β : Type} {B : Automaton τ β} {related : σ → τ → Prop}
    (hAB : A.Follows B related)
    (hstep : ∀ s t item, related s t → A.step s item = .error fault →
      B.step t item = .error fault)
    (hfinish : ∀ s, A.finish s ≠ .error fault) (h : A.run items = .error fault) :
    B.run items = .error fault := by
  rcases runFrom_eq_error_iff.1 h with ⟨before, item, after, s, rfl, hf, hs⟩ | ⟨s, -, hs⟩
  · obtain ⟨t, ht, hst⟩ := hAB.feed hAB.start hf
    rw [run, runFrom_append ht, runFrom_cons_error (hstep s t item hst hs)]
  · exact absurd hs (hfinish s)

/-! ## Automata without dead ends -/

/-- An automaton whose every state leads to success, and whose faults carry the
span of the lexeme that caused them, if one did. -/
structure Viable (A : Automaton σ α) : Prop where
  completes : ∀ s, ∃ items a, A.runFrom s items = .ok a
  step_span : ∀ s item fault, A.step s item = .error fault → fault.span? = some item.span
  finish_span : ∀ s fault, A.finish s = .error fault → fault.span? = none

/-- Only without lexemes is an expression empty, if no step leads back to that
state. -/
theorem Viable.run_eq_empty_iff (hA : A.Viable) (hstart : A.finish A.start = .error .empty)
    (hstep : ∀ s item s', A.step s item = .ok s' → A.finish s' ≠ .error .empty) :
    A.run items = .error .empty ↔ items = [] := by
  constructor
  · intro h
    refine Classical.byContradiction fun hne => ?_
    rcases runFrom_eq_error_iff.1 h with ⟨before, item, after, s, rfl, -, hs⟩ | ⟨s, hf, hs⟩
    · cases hA.step_span s item .empty hs
    · obtain ⟨s₁, item, hlast⟩ := exists_step_of_feed hf hne
      exact hstep s₁ item s hlast hs
  · rintro rfl
    exact hstart

/-- A fault without a span is one of the end. -/
theorem Viable.finish_of_span_eq_none (hA : A.Viable) (h : A.run items = .error fault)
    (hspan : fault.span? = none) :
    ∃ s, A.feed A.start items = .ok s ∧ A.finish s = .error fault := by
  rcases runFrom_eq_error_iff.1 h with ⟨before, item, after, s, -, -, hs⟩ | hend
  · rw [hA.step_span s item fault hs] at hspan
    cases hspan
  · exact hend

/-- A fault with a span is one of a step. -/
theorem Viable.step_of_span_eq_some (hA : A.Viable) (h : A.run items = .error fault) {span : Span}
    (hspan : fault.span? = some span) : ∃ before item after s, items = before ++ item :: after ∧
      A.feed A.start before = .ok s ∧ A.step s item = .error fault := by
  rcases runFrom_eq_error_iff.1 h with hstep | ⟨s, -, hs⟩
  · exact hstep
  · rw [hA.finish_span s fault hs] at hspan
    cases hspan

/-- What has been read without a fault is the beginning of something accepted. -/
theorem Viable.exists_append (hA : A.Viable) (h : A.feed A.start items = .ok s) :
    ∃ more a, A.run (items ++ more) = .ok a := by
  obtain ⟨more, a, hm⟩ := hA.completes s
  exact ⟨more, a, by rw [run, runFrom_append h, hm]⟩

/-- **A fault tells how far the input can be completed.**  With a span, it lies
at the first lexeme after which nothing is accepted and everything fails alike;
without one, the input is a proper beginning of something accepted. -/
theorem Viable.located (hA : A.Viable) (h : A.run items = .error fault) :
    (∀ span, fault.span? = some span → ∃ before item after, items = before ++ item :: after ∧
      item.span = span ∧ (∃ more a, A.run (before ++ more) = .ok a) ∧
      ∀ more, A.run (before ++ item :: more) = .error fault) ∧
    (fault.span? = none → ∃ more a, more ≠ [] ∧ A.run (items ++ more) = .ok a) := by
  rcases runFrom_eq_error_iff.1 h with ⟨before, item, after, s, rfl, hf, hs⟩ | ⟨s, hf, hs⟩
  · have hspan := hA.step_span s item fault hs
    refine ⟨fun span h => ?_, fun h => ?_⟩
    · rw [hspan] at h
      refine ⟨before, item, after, rfl, Option.some.inj h, hA.exists_append hf, fun more => ?_⟩
      rw [run, runFrom_append hf, runFrom_cons_error hs]
    · rw [hspan] at h
      cases h
  · have hspan := hA.finish_span s fault hs
    refine ⟨fun span h => ?_, fun _ => ?_⟩
    · rw [hspan] at h
      cases h
    · obtain ⟨more, a, hm⟩ := hA.exists_append hf
      refine ⟨more, a, ?_, hm⟩
      rintro rfl
      rw [List.append_nil, h] at hm
      cases hm

end Automaton

end Reckoner
