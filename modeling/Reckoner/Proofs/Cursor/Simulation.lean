import Reckoner.Proofs.Automaton
import Reckoner.Proofs.Cursor.Readings

/-!
# Readings that go along with an automaton

A reading that calls itself for every operand keeps what is still to be done in
its calls; an automaton keeps it in its state.  `Simulates A s c r post` says
that the reading `r` at the cursor `c` and the automaton in the state `s` go
along with each other: where the reading succeeds, the automaton comes to a
state with the same lexemes ahead, and `post` relates the value, the cursor and
that state; where the reading fails, the run of the automaton fails in the same
way.  There is one rule for each way in which readings are put together, so that
a notation is related to its automaton along the text of its reading.

The automata of the notations work on trees and the readings on their values, so
an automaton knows more, and everything about the values follows from it.
-/

namespace Reckoner.Reading

variable {σ τ α β : Type} {A : Automaton σ τ} {s s' : σ} {c c' : Cursor}

/-- The reading `r` at `c` and the automaton in state `s` go along with each
other, up to a value, a cursor and a state that `post` relates. -/
def Simulates (A : Automaton σ τ) (s : σ) (c : Cursor) (r : Reading α)
    (post : α → Cursor → σ → Prop) : Prop :=
  match r c with
  | .ok a c' => ∃ s', A.runFrom s c.items = A.runFrom s' c'.items ∧ post a c' s'
  | .error fault _ => A.runFrom s c.items = .error fault

namespace Simulates

variable {r r' : Reading α} {f : α → Reading β} {post post' : α → Cursor → σ → Prop}

/-! ## Rules -/

theorem of_ok {a : α} (hr : r c = .ok a c')
    (hrun : A.runFrom s c.items = A.runFrom s' c'.items) (h : post a c' s') :
    Simulates A s c r post := by
  rw [Simulates, hr]
  exact ⟨s', hrun, h⟩

theorem of_error {fault : Fault} (hr : r c = .error fault c')
    (hrun : A.runFrom s c.items = .error fault) : Simulates A s c r post := by
  rw [Simulates, hr]
  exact hrun

theorem pure {a : α} (h : post a c s) : Simulates A s c (pure a) post :=
  of_ok rfl rfl h

/-- A reading that is, at `c`, another reading at a later cursor, while the
automaton moves to that place too. -/
theorem step (hr : r c = r' c') (hrun : A.runFrom s c.items = A.runFrom s' c'.items)
    (h : Simulates A s' c' r' post) : Simulates A s c r post := by
  rw [Simulates, hr, hrun]
  exact h

theorem mono (h : Simulates A s c r post) (hp : ∀ a c' s', post a c' s' → post' a c' s') :
    Simulates A s c r post' := by
  cases hr : r c with
  | ok a c' =>
    rw [Simulates, hr] at h ⊢
    obtain ⟨s', hrun, ha⟩ := h
    exact ⟨s', hrun, hp a c' s' ha⟩
  | error fault c' =>
    rw [Simulates, hr] at h ⊢
    exact h

theorem bind {post' : β → Cursor → σ → Prop} (h : Simulates A s c r post)
    (hf : ∀ a c' s', post a c' s' → Simulates A s' c' (f a) post') :
    Simulates A s c (r >>= f) post' := by
  cases hr : r c with
  | ok a c' =>
    rw [Simulates, hr] at h
    obtain ⟨s', hrun, ha⟩ := h
    exact step (bind_ok hr) hrun (hf a c' s' ha)
  | error fault c' =>
    rw [Simulates, hr] at h
    exact of_error (bind_error hr) h

theorem nested {limit : Nat} {span : Span} (hd : c.depth < limit)
    (h : Simulates A s { c with depth := c.depth + 1 } r fun a c' s' =>
      post a { c' with depth := c'.depth - 1 } s') :
    Simulates A s c (nested limit span r) post := by
  cases hr : r { c with depth := c.depth + 1 } with
  | ok a c' =>
    rw [Simulates, hr] at h
    obtain ⟨s', hrun, ha⟩ := h
    exact of_ok (nested_ok hd hr) hrun ha
  | error fault c' =>
    rw [Simulates, hr] at h
    exact of_error (nested_error hd hr) h

end Simulates

/-! ## Whole expressions -/

/-- A notation evaluates as its automaton runs, when the end of its reading is
the end of the run. -/
theorem evaluate_eq_map_run {value : τ → Number} {r : Reading Number} {items : List Lexeme}
    (post : Number → Cursor → σ → Prop) (hempty : A.finish A.start = .error .empty)
    (hend : ∀ v c' s', post v c' s' →
      outcome (finish v c') = (A.runFrom s' c'.items).map value)
    (h : items ≠ [] → Simulates A A.start (.ofList items) r post) :
    evaluate r items = (A.run items).map value := by
  by_cases hne : items = []
  · subst hne
    rw [evaluate_nil, Automaton.run, Automaton.runFrom_nil, hempty]
    rfl
  · have hs := h hne
    cases hr : r (.ofList items) with
    | error fault c =>
      rw [Simulates, hr] at hs
      have hrun : A.run items = .error fault := hs
      rw [evaluate_of_error hne hr, hrun]
      rfl
    | ok v c =>
      rw [Simulates, hr] at hs
      obtain ⟨s', hrun, hp⟩ := hs
      rw [evaluate_of_ok hne hr, hend v c s' hp]
      exact congrArg _ hrun.symm

/-- What reading one tree at `c` leads to: the value of the tree, a cursor
further on in the same group and at the same depth, and the state `next` to the
tree. -/
structure ReadsTree (value : τ → Number) (next : τ → σ) (c : Cursor) (v : Number) (c' : Cursor)
    (s : σ) : Prop where
  tree : ∃ t, value t = v ∧ s = next t
  shorter : c'.items.length < c.items.length
  openGroups : c'.openGroups = c.openGroups
  depth : c'.depth = c.depth

/-- A tree that is read outside of any group is a whole expression, if nothing
follows. -/
theorem ReadsTree.outcome_finish {value : τ → Number} {next : τ → σ} {items : List Lexeme}
    {v : Number} (hfinish : ∀ t, A.finish (next t) = .ok t)
    (hstep : ∀ t item, A.step (next t) item = .error (.unfinished item.token item.span))
    (h : ReadsTree value next (.ofList items) v c s) :
    outcome (finish v c) = (A.runFrom s c.items).map value := by
  obtain ⟨⟨t, rfl, rfl⟩, -, hg, -⟩ := h
  obtain ⟨rest, n, g, d⟩ := c
  cases hg
  cases rest with
  | nil =>
    rw [Automaton.runFrom_nil, hfinish]
    rfl
  | cons item rest =>
    rw [Automaton.runFrom_cons_error (hstep t item)]
    rfl

end Reckoner.Reading
