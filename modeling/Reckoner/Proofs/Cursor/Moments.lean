import Reckoner.Proofs.Cursor.Books

/-!
# Moments of a cursor program

A run of a program comes to the moment before an operation by the operations before
it and the blocks around it (`Arrives`).  The operations are run as the program runs
them, and a block starts at the cursor that `Reading.nested` hands to it.

The books are kept at every moment, inside of blocks and after failures too
(`Arrives.books`), and every operation that the records of a program tell of was
carried out at a moment (`Happens`).  Together with the end of the program this is
the main statement, `runProgram_keeps`.
-/

namespace Reckoner

open Reading

/-! ## Moments of a run -/

/-- A moment of a run, right before an operation is carried out. -/
structure Moment where
  /-- The number of blocks around the operation. -/
  blocks : Nat
  /-- What has been carried out before. -/
  past : List Performed
  cursor : Cursor
  step : CursorStep

/-- A run of the operations at a cursor, with `blocks` blocks around them and after
`past`, comes to the moment `m`.  In a block only operations that succeed are
followed by others. -/
inductive Arrives (limit : Nat) (m : Moment) :
    (blocks : Nat) → (past : List Performed) → List CursorStep → Cursor → Prop where
  | here (steps : List CursorStep) : Arrives limit m m.blocks m.past (m.step :: steps) m.cursor
  | later {blocks : Nat} {past : List Performed} {step : CursorStep} {steps : List CursorStep}
    {c c' : Cursor} {record : CursorRecord} (hrun : step.run limit c = .ok record c')
    (hgo : blocks = 0 ∨ ∃ answer, record.outcome = .ok answer)
    (hrest : Arrives limit m blocks (past ++ step.performed record) steps c') :
    Arrives limit m blocks past (step :: steps) c
  | inside {blocks : Nat} {past : List Performed} {span : Span} {body steps : List CursorStep}
    {c c' start : Cursor} (hopen : Reading.nested limit span get c = .ok start c')
    (hbody : Arrives limit m (blocks + 1) past body start) :
    Arrives limit m blocks past (.nested span body :: steps) c

/-- The operations are run at `c`, after `past`, and after `front` one of them is carried
out with the outcome that `p` tells of. -/
def Happens (limit blocks : Nat) (past front : List Performed) (p : Performed)
    (steps : List CursorStep) (c : Cursor) : Prop :=
  ∃ m, Arrives limit m blocks past steps c ∧ m.past = past ++ front ∧ m.step = p.1 ∧
    ∃ record c', m.step.run limit m.cursor = .ok record c' ∧ record.outcome = p.2

variable {items : List Lexeme} {limit blocks : Nat} {past front : List Performed} {c c' : Cursor}
  {p : Performed} {record : CursorRecord}

/-- **The books are kept at every moment**, by induction on how a run arrives there:
an operation before it keeps them, and a block around it starts one level deeper. -/
theorem Arrives.books {m : Moment} {blocks : Nat} {past : List Performed}
    {steps : List CursorStep} {c : Cursor} (harrives : Arrives limit m blocks past steps c)
    (h : Books items limit blocks past c) : Books items limit m.blocks m.past m.cursor := by
  induction harrives with
  | here steps => exact h
  | @later _ _ step _ _ _ _ hrun _ _ ih =>
    obtain ⟨record, c', hkept, hbooks, -⟩ := run_keeps step h
    cases hrun.symm.trans hkept
    exact ih hbooks
  | inside hopen _ ih =>
    obtain ⟨hlt, _, hstart, -⟩ := nested_eq_ok hopen
    cases hstart
    exact ih (h.enter (h.depth ▸ hlt))

/-! ## Operations that are told of -/

theorem Happens.here {step : CursorStep} (hrun : step.run limit c = .ok record c')
    (steps : List CursorStep) :
    Happens limit blocks past [] (step, record.outcome) (step :: steps) c :=
  ⟨⟨blocks, past, c, step⟩, .here steps, (List.append_nil past).symm, rfl, record, c', hrun, rfl⟩

theorem Happens.later {step : CursorStep} {steps : List CursorStep}
    (hrun : step.run limit c = .ok record c')
    (hgo : blocks = 0 ∨ ∃ answer, record.outcome = .ok answer)
    (h : Happens limit blocks (past ++ step.performed record) front p steps c') :
    Happens limit blocks past (step.performed record ++ front) p (step :: steps) c := by
  obtain ⟨m, harrives, hpast, hm⟩ := h
  exact ⟨m, .later hrun hgo harrives, by rw [hpast, List.append_assoc], hm⟩

theorem Happens.inside {span : Span} {body : List CursorStep} (hd : c.depth < limit)
    (h : Happens limit (blocks + 1) past front p body { c with depth := c.depth + 1 })
    (steps : List CursorStep) :
    Happens limit blocks past front p (.nested span body :: steps) c := by
  obtain ⟨m, harrives, hm⟩ := h
  exact ⟨m, .inside (nested_ok hd rfl) harrives, hm⟩

/-- What is told of a list of operations is told of the first one or of the others. -/
theorem performedAll_cons_cases {step : CursorStep} {steps : List CursorStep}
    {records : List CursorRecord} {back : List Performed}
    (h : CursorStep.performedAll (step :: steps) (record :: records) = front ++ p :: back) :
    (∃ back', step.performed record = front ++ p :: back') ∨
    ∃ front', front = step.performed record ++ front' ∧
      CursorStep.performedAll steps records = front' ++ p :: back := by
  rw [CursorStep.performedAll] at h
  rcases List.append_eq_append_iff.1 h with ⟨front', hfront, hothers⟩ | ⟨back', hfirst, hback⟩
  · exact .inr ⟨front', hfront, hothers⟩
  · cases back' with
    | nil => exact .inr ⟨[], by rw [hfirst, List.append_nil, List.append_nil], hback.symm⟩
    | cons first back' =>
      obtain ⟨rfl, -⟩ := List.cons.inj hback
      exact .inl ⟨back', hfirst⟩

mutual

/-- Each operation that a record tells of was carried out. -/
theorem happens_of_performed (step : CursorStep) {blocks : Nat}
    {past front back : List Performed} {c c' : Cursor} {record : CursorRecord}
    (h : Books items limit blocks past c) (hrun : step.run limit c = .ok record c')
    (htold : step.performed record = front ++ p :: back)
    (steps : List CursorStep) : Happens limit blocks past front p (step :: steps) c := by
  cases step with
  | nested span body =>
    obtain ⟨_, _, hkept, -, -, -, hrefused, hentered⟩ := run_keeps (.nested span body) h
    cases hrun.symm.trans hkept
    by_cases hlt : blocks < limit
    · obtain ⟨records, fault?, c₁, hblock, rfl, -⟩ := hentered hlt
      exact .inside (h.depth.symm ▸ hlt)
        (happens_of_performedAll body (h.enter hlt) hblock htold) steps
    · obtain ⟨rfl, -⟩ := hrefused (Nat.le_antisymm h.room (Nat.not_lt.1 hlt))
      rw [performed_nested_nil] at htold
      cases front <;> cases htold
  | _ =>
    rcases front with _ | ⟨_, _ | _⟩ <;> cases htold
    exact .here hrun steps

theorem happens_of_performedAll (steps : List CursorStep) {blocks : Nat}
    {past front back : List Performed} {c c' : Cursor} {records : List CursorRecord}
    {fault? : Option Fault} (h : Books items limit blocks past c)
    (hrun : CursorStep.runBlock limit steps c = .ok (records, fault?) c')
    (htold : CursorStep.performedAll steps records = front ++ p :: back) :
    Happens limit blocks past front p steps c := by
  cases steps with
  | nil => cases front <;> cases (performedAll_nil []).symm.trans htold
  | cons step steps =>
    obtain ⟨record, c₁, hfirst, hbooks, -⟩ := run_keeps step h
    rw [CursorStep.runBlock, bind_ok hfirst] at hrun
    cases houtcome : record.outcome with
    | error fault =>
      simp only [houtcome] at hrun
      cases hrun
      rcases performedAll_cons_cases htold with ⟨back', hstep⟩ | ⟨front', -, hnone⟩
      · exact happens_of_performed step h hfirst hstep steps
      · cases front' <;> cases (performedAll_nil steps).symm.trans hnone
    | ok answer =>
      simp only [houtcome] at hrun
      obtain ⟨⟨others, _⟩, c₂, hrest, hpure⟩ := bind_eq_ok hrun
      cases hpure
      rcases performedAll_cons_cases htold with ⟨back', hstep⟩ | ⟨front', rfl, hothers⟩
      · exact happens_of_performed step h hfirst hstep steps
      · exact .later hfirst (.inr ⟨answer, houtcome⟩)
          (happens_of_performedAll steps hbooks hrest hothers)

end

/-! ## The end of a program -/

/-- A program goes on after failures, so each of its operations has a record. -/
theorem runProgram_books (program : List CursorStep) {past : List Performed} {c : Cursor}
    (h : Books items limit 0 past c) :
    ∃ records c', CursorStep.runProgram limit program c = .ok records c' ∧
      records.length = program.length ∧
      Books items limit 0 (past ++ CursorStep.performedAll program records) c' ∧
      ∀ front p back, CursorStep.performedAll program records = front ++ p :: back →
        Happens limit 0 past front p program c := by
  induction program generalizing past c with
  | nil =>
    refine ⟨[], c, rfl, rfl, ?_, fun front p back htold => ?_⟩
    · rwa [performedAll_nil, List.append_nil]
    · cases front <;> cases (performedAll_nil []).symm.trans htold
  | cons step program ih =>
    obtain ⟨record, c₁, hrun, hbooks, -⟩ := run_keeps step h
    obtain ⟨records, c₂, hrest, hlength, hall, hhappens⟩ := ih hbooks
    refine ⟨record :: records, c₂, ?_, congrArg (· + 1) hlength, ?_, fun front p back htold => ?_⟩
    · rw [CursorStep.runProgram, bind_ok hrun, bind_ok hrest]
      rfl
    · rw [CursorStep.performedAll, ← List.append_assoc]
      exact hall
    · rcases performedAll_cons_cases htold with ⟨back', hstep⟩ | ⟨front', rfl, hothers⟩
      · exact happens_of_performed step h hrun hstep program
      · exact .later hrun (.inl rfl) (hhappens front' p back hothers)

/-- A cursor with these books is at the end of an expression when all lexemes are
consumed and all groups that were opened are closed. -/
theorem Books.finish_eq (h : Books items limit blocks past c) (value : Number) :
    outcome (finish value c) =
      match items[c.consumed]? with
      | some item => .error (.unfinished item.token item.span)
      | none =>
        if openings past = closings past then .ok value
        else .error (.unclosedParen (openings past - closings past)) := by
  obtain ⟨rest, n, g, d⟩ := c
  have hgroups : g + closings past = openings past := h.groups
  have hrest : rest = items.drop n := h.items
  rw [show items[n]? = rest.head? by rw [hrest, List.head?_drop]]
  cases rest with
  | cons item rest => rfl
  | nil =>
    cases g with
    | zero => exact (if_pos (by omega)).symm
    | succ g =>
      have hopen : openings past ≠ closings past := by omega
      have hcount : openings past - closings past = g + 1 := by omega
      rw [List.head?_nil]
      simp only [if_neg hopen, hcount]
      rfl

/-- **The books of a cursor are kept by every program of operations**, at each moment
of its run and at its end, and the records of the program tell of nothing but
operations that were carried out at such a moment. -/
theorem runProgram_keeps (items : List Lexeme) (program : List CursorStep) :
    (∀ m, Arrives defaultLimit m 0 [] program (.ofList items) →
      Books items 256 m.blocks m.past m.cursor ∧
      Keeps items 256 m.blocks m.past m.step m.cursor) ∧
    ∃ records c, CursorStep.runProgram defaultLimit program (.ofList items) = .ok records c ∧
      records.length = program.length ∧
      Books items 256 0 (CursorStep.performedAll program records) c ∧
      (∀ front p back, CursorStep.performedAll program records = front ++ p :: back →
        Happens defaultLimit 0 [] front p program (.ofList items)) ∧
      ∀ value, outcome (finish value c) =
        match items[c.consumed]? with
        | some item => .error (.unfinished item.token item.span)
        | none =>
          let past := CursorStep.performedAll program records
          if openings past = closings past then .ok value
          else .error (.unclosedParen (openings past - closings past)) := by
  have hstart := Books.start items 256
  refine ⟨fun m harrives => ?_, ?_⟩
  · have hbooks := harrives.books hstart
    exact ⟨hbooks, run_keeps m.step hbooks⟩
  · obtain ⟨records, c, hrun, hlength, hbooks, hhappens⟩ := runProgram_books program hstart
    exact ⟨records, c, hrun, hlength, hbooks, hhappens, hbooks.finish_eq⟩

end Reckoner
