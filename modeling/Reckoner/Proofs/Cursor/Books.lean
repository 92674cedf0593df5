import Reckoner.Cursor.Program
import Reckoner.Proofs.Cursor.Readings

/-!
# The books of a cursor

A cursor counts what has been consumed, the groups that are open and the levels
that it is in.  The counts are kept by whoever moves the cursor, in readings that
may fail anywhere, and a reading that fails leaves the cursor where it came to.
`Books` says that the counts agree with the operations that have been carried out.

Each operation keeps the books, also when it fails, and does no more to the cursor
than `Conduct` says of it.  This is proved for single operations first; a block
keeps the books if its body does, so that `run_keeps` follows by induction on the
operation, as the body of a block is a list of operations again.
-/

namespace Reckoner

open Reading

/-! ## What has been carried out -/

/-- An operation that has been carried out, and its outcome. -/
abbrev Performed := CursorStep × Except Fault CursorAnswer

mutual

/-- The operations that the record of an operation tells of.  A block stands for
those that have been carried out in it. -/
def CursorStep.performed : CursorStep → CursorRecord → List Performed
  | .nested _ body, .step _ _ (some inner) => performedAll body inner
  | step, record => [(step, record.outcome)]

/-- The operations that the records of a block or program tell of. -/
def CursorStep.performedAll : List CursorStep → List CursorRecord → List Performed
  | step :: steps, record :: records => step.performed record ++ performedAll steps records
  | _, _ => []

end

/-- A group has been opened. -/
def opensGroup : Performed → Bool
  | (.openGroup, _) => true
  | _ => false

/-- A group has been closed. -/
def closesGroup : Performed → Bool
  | (.closeGroup _, .ok _) => true
  | _ => false

/-- How often a group has been opened. -/
def openings (past : List Performed) : Nat := past.countP opensGroup

/-- How often a group has been closed. -/
def closings (past : List Performed) : Nat := past.countP closesGroup

/-! ## Books -/

/-- The cursor into `items` agrees with what has been carried out, with `blocks`
blocks around it. -/
structure Books (items : List Lexeme) (limit blocks : Nat) (past : List Performed)
    (c : Cursor) : Prop where
  consumed : c.consumed + c.items.length = items.length
  /-- The lexemes ahead are the last ones of the list. -/
  items : c.items = items.drop c.consumed
  groups : c.openGroups + closings past = openings past
  depth : c.depth = blocks
  room : blocks ≤ limit

/-- The outcome of a block that stops at `fault?`. -/
def blockOutcome : (fault? : Option Fault) → Except Fault CursorAnswer
  | none => .ok .done
  | some fault => .error fault

/-- What an operation with `blocks` blocks around it does to the cursor `c`, besides
keeping the books.

An expectation that fails has consumed the lexeme it fails at, and a group that cannot
be closed changes nothing.  Levels inside of each other are refused when there is no
room for all of them.  A block is refused exactly when `limit` blocks are open, and
nothing of it is run then; any other block is run one level deeper and fails as the
operation in it does. -/
def Conduct (limit blocks : Nat) (c : Cursor) (record : CursorRecord) (c' : Cursor) :
    CursorStep → Prop
  | .expectToken _ | .expectOperator => ∀ fault, record.outcome = .error fault →
    (fault = .unexpectedEnd ∧ c.items = [] ∧ c' = c) ∨
    ∃ item rest, c.items = item :: rest ∧ fault = .unexpectedToken item.token item.span ∧
      c' = { c with items := rest, consumed := c.consumed + 1 }
  | .closeGroup span => ∀ fault, record.outcome = .error fault →
    c.openGroups = 0 ∧ fault = .unbalancedParen span ∧ c' = c
  | .descend count => c' = c ∧ record.outcome =
    if blocks + count ≤ limit then .ok (.levels count)
    else .error (.tooDeep (.single (count - (limit - blocks))))
  | .nested span body =>
    ((∀ (α : Type) (block : Reading α),
        Reading.nested limit span block c = .error (.tooDeep span) c) ↔ blocks = limit) ∧
    (blocks = limit → record = .step (.error (.tooDeep span)) c.consumed (some []) ∧ c' = c) ∧
    (blocks < limit → ∃ records fault? c₁,
      CursorStep.runBlock limit body { c with depth := c.depth + 1 } =
        .ok (records, fault?) c₁ ∧
      record = .step (blockOutcome fault?) c₁.consumed (some records) ∧
      c' = { c₁ with depth := c.depth })
  | _ => True

variable {items : List Lexeme} {limit blocks : Nat} {past : List Performed} {c : Cursor}

theorem performedAll_nil (steps : List CursorStep) : CursorStep.performedAll steps [] = [] := by
  cases steps <;> rfl

/-- A block that is refused carries nothing out. -/
theorem performed_nested_nil (span : Span) (body : List CursorStep)
    (outcome : Except Fault CursorAnswer) (consumed : Nat) :
    (CursorStep.nested span body).performed (.step outcome consumed (some [])) = [] :=
  performedAll_nil body

theorem openings_append (past more : List Performed) :
    openings (past ++ more) = openings past + openings more := List.countP_append

theorem closings_append (past more : List Performed) :
    closings (past ++ more) = closings past + closings more := List.countP_append

namespace Books

theorem start (items : List Lexeme) (limit : Nat) : Books items limit 0 [] (.ofList items) :=
  ⟨Nat.zero_add _, rfl, rfl, rfl, Nat.zero_le _⟩

variable (h : Books items limit blocks past c)

include h

/-- An operation that leaves the cursor where it is. -/
theorem stay {p : Performed} (hopen : opensGroup p = false) (hclose : closesGroup p = false) :
    Books items limit blocks (past ++ [p]) c where
  consumed := h.consumed
  items := h.items
  groups := by
    rw [openings_append, closings_append]
    simpa [openings, closings, hopen, hclose] using h.groups
  depth := h.depth
  room := h.room

/-- An operation that consumes a lexeme. -/
theorem consume {p : Performed} {item : Lexeme} {rest : List Lexeme}
    (hitems : c.items = item :: rest) (hopen : opensGroup p = false)
    (hclose : closesGroup p = false) :
    Books items limit blocks (past ++ [p])
      { c with items := rest, consumed := c.consumed + 1 } where
  consumed := by
    have hcount := h.consumed
    rw [hitems, List.length_cons] at hcount
    simp only
    omega
  items := by
    have hdrop := h.items
    rw [hitems] at hdrop
    simp only
    rw [← List.drop_drop, ← hdrop]
    rfl
  groups := (h.stay hopen hclose).groups
  depth := h.depth
  room := h.room

theorem openGroup (outcome : Except Fault CursorAnswer) :
    Books items limit blocks (past ++ [(.openGroup, outcome)])
      { c with openGroups := c.openGroups + 1 } where
  consumed := h.consumed
  items := h.items
  groups := by
    have hopened : openings [(.openGroup, outcome)] = 1 := rfl
    have hclosed : closings [(.openGroup, outcome)] = 0 := rfl
    rw [openings_append, closings_append, hopened, hclosed, ← h.groups]
    exact Nat.add_right_comm ..
  depth := h.depth
  room := h.room

theorem closeGroup {n : Nat} (hopen : c.openGroups = n + 1) (span : Span) (answer : CursorAnswer) :
    Books items limit blocks (past ++ [(.closeGroup span, .ok answer)])
      { c with openGroups := n } where
  consumed := h.consumed
  items := h.items
  groups := by
    have hopened : openings [(.closeGroup span, .ok answer)] = 0 := rfl
    have hclosed : closings [(.closeGroup span, .ok answer)] = 1 := rfl
    rw [openings_append, closings_append, hopened, hclosed, ← h.groups, hopen]
    simp only
    omega
  depth := h.depth
  room := h.room

end Books

/-! ## Operations without a block -/

/-- A lexeme that is not the expected one is consumed all the same. -/
theorem expectToken_cons (token : Token) (item : Lexeme) (rest : List Lexeme) (n g d : Nat) :
    Reading.expectToken token ⟨item :: rest, n, g, d⟩ =
      if item.token.agrees token then .ok item ⟨rest, n + 1, g, d⟩
      else .error (.unexpectedToken item.token item.span) ⟨rest, n + 1, g, d⟩ := by
  have hread : Reading.expectToken token ⟨item :: rest, n, g, d⟩ =
      (if item.token.agrees token then pure item
        else throw (.unexpectedToken item.token item.span) : Reading Lexeme)
        ⟨rest, n + 1, g, d⟩ := rfl
  rw [hread]
  split <;> rfl

/-- Levels inside of each other are opened if there is room for all of them, and are
closed again in any case. -/
theorem descend_eq (limit levels : Nat) (c : Cursor) (hd : c.depth ≤ limit) :
    Reading.descend limit levels c =
      if c.depth + levels ≤ limit then .ok () c
      else .error (.tooDeep (.single (levels - (limit - c.depth)))) c := by
  induction levels generalizing c with
  | zero => exact (if_pos hd).symm
  | succ m ih =>
    rw [Reading.descend]
    by_cases hlt : c.depth < limit
    · have hbody := ih { c with depth := c.depth + 1 } hlt
      by_cases hroom : c.depth + 1 + m ≤ limit
      · rw [if_pos hroom] at hbody
        rw [nested_ok hlt hbody, if_pos (by omega)]
        rfl
      · rw [if_neg hroom] at hbody
        have hplace : m - (limit - (c.depth + 1)) = m + 1 - (limit - c.depth) := by omega
        rw [nested_error hlt hbody, if_neg (by omega), hplace]
        rfl
    · have hplace : m + 1 - (limit - c.depth) = m + 1 := by omega
      rw [nested_of_le (Nat.not_lt.1 hlt), if_neg (by omega), hplace]

/-- The operation is carried out, keeps the books, closes the levels that it opens and
does to the cursor what it may do. -/
def Keeps (items : List Lexeme) (limit blocks : Nat) (past : List Performed)
    (step : CursorStep) (c : Cursor) : Prop :=
  ∃ record c', step.run limit c = .ok record c' ∧
    Books items limit blocks (past ++ step.performed record) c' ∧
    c'.depth = c.depth ∧ Conduct limit blocks c record c' step

section

variable (h : Books items limit blocks past c)

include h

theorem keeps_atEnd : Keeps items limit blocks past .atEnd c :=
  ⟨_, _, rfl, h.stay rfl rfl, rfl, trivial⟩

theorem keeps_advance : Keeps items limit blocks past .advance c := by
  obtain ⟨rest, n, g, d⟩ := c
  cases rest with
  | nil => exact ⟨_, _, rfl, h.stay rfl rfl, rfl, trivial⟩
  | cons item rest =>
    exact ⟨_, _, rfl, h.consume rfl rfl rfl, rfl, trivial⟩

theorem keeps_nextItem : Keeps items limit blocks past .nextItem c := by
  obtain ⟨rest, n, g, d⟩ := c
  cases rest with
  | nil => exact ⟨_, _, rfl, h.stay rfl rfl, rfl, trivial⟩
  | cons item rest =>
    exact ⟨_, _, rfl, h.consume rfl rfl rfl, rfl, trivial⟩

theorem keeps_openGroup : Keeps items limit blocks past .openGroup c :=
  ⟨_, _, rfl, h.openGroup _, rfl, trivial⟩

theorem keeps_expectToken (token : Token) :
    Keeps items limit blocks past (.expectToken token) c := by
  obtain ⟨rest, n, g, d⟩ := c
  cases rest with
  | nil =>
    refine ⟨_, _, rfl, h.stay rfl rfl, rfl, fun fault hfault => ?_⟩
    cases hfault
    exact .inl ⟨rfl, rfl, rfl⟩
  | cons item rest =>
    have hread := expectToken_cons token item rest n g d
    cases hagrees : item.token.agrees token with
    | true =>
      rw [if_pos hagrees] at hread
      have hrun : (CursorStep.expectToken token).run limit ⟨item :: rest, n, g, d⟩ =
          .ok (.step (.ok (.lexeme item)) (n + 1) none) ⟨rest, n + 1, g, d⟩ := by
        rw [CursorStep.run, recorded, bind_ok hread]
        rfl
      exact ⟨_, _, hrun, h.consume rfl rfl rfl, rfl, nofun⟩
    | false =>
      rw [if_neg (by simp [hagrees])] at hread
      have hrun : (CursorStep.expectToken token).run limit ⟨item :: rest, n, g, d⟩ =
          .ok (.step (.error (.unexpectedToken item.token item.span)) (n + 1) none)
            ⟨rest, n + 1, g, d⟩ := by
        rw [CursorStep.run, recorded, bind_error hread]
      refine ⟨_, _, hrun, h.consume rfl rfl rfl, rfl, fun fault hfault => ?_⟩
      cases hfault
      exact .inr ⟨_, _, rfl, rfl, rfl⟩

theorem keeps_expectOperator : Keeps items limit blocks past .expectOperator c := by
  obtain ⟨rest, n, g, d⟩ := c
  cases rest with
  | nil =>
    refine ⟨_, _, rfl, h.stay rfl rfl, rfl, fun fault hfault => ?_⟩
    cases hfault
    exact .inl ⟨rfl, rfl, rfl⟩
  | cons item rest =>
    obtain ⟨token, span⟩ := item
    cases token with
    | operator op =>
      exact ⟨_, _, rfl, h.consume rfl rfl rfl, rfl, nofun⟩
    | _ =>
      refine ⟨_, _, rfl, h.consume rfl rfl rfl, rfl, fun fault hfault => ?_⟩
      cases hfault
      exact .inr ⟨_, _, rfl, rfl, rfl⟩

theorem keeps_closeGroup (span : Span) : Keeps items limit blocks past (.closeGroup span) c := by
  obtain ⟨rest, n, g, d⟩ := c
  cases g with
  | zero =>
    refine ⟨_, _, rfl, h.stay rfl rfl, rfl, fun fault hfault => ?_⟩
    cases hfault
    exact ⟨rfl, rfl, rfl⟩
  | succ g => exact ⟨_, _, rfl, h.closeGroup rfl span .done, rfl, nofun⟩

theorem keeps_descend (levels : Nat) : Keeps items limit blocks past (.descend levels) c := by
  have hread := descend_eq limit levels c (h.depth ▸ h.room)
  rw [h.depth] at hread
  by_cases hroom : blocks + levels ≤ limit
  · rw [if_pos hroom] at hread
    have hrun : (CursorStep.descend levels).run limit c =
        .ok (.step (.ok (.levels levels)) c.consumed none) c := by
      rw [CursorStep.run, recorded, bind_ok hread]
      rfl
    exact ⟨_, _, hrun, h.stay rfl rfl, rfl, rfl, (if_pos hroom).symm⟩
  · rw [if_neg hroom] at hread
    have hrun : (CursorStep.descend levels).run limit c =
        .ok (.step (.error (.tooDeep (.single (levels - (limit - blocks))))) c.consumed none)
          c := by
      rw [CursorStep.run, recorded, bind_error hread]
    exact ⟨_, _, hrun, h.stay rfl rfl, rfl, rfl, (if_neg hroom).symm⟩

end

/-! ## Blocks -/

/-- The operations of a block are carried out up to the first one that fails, and
keep the books. -/
def BlockKeeps (items : List Lexeme) (limit blocks : Nat) (past : List Performed)
    (steps : List CursorStep) (c : Cursor) : Prop :=
  ∃ records fault? c', CursorStep.runBlock limit steps c = .ok (records, fault?) c' ∧
    Books items limit blocks (past ++ CursorStep.performedAll steps records) c'

/-- A block for which there is no room. -/
theorem keeps_nested_refused (h : Books items limit blocks past c) (hfull : blocks = limit)
    (span : Span) (body : List CursorStep) :
    Keeps items limit blocks past (.nested span body) c := by
  have hle : limit ≤ c.depth := Nat.le_of_eq (hfull.symm.trans h.depth.symm)
  have hrun : (CursorStep.nested span body).run limit c =
      .ok (.step (.error (.tooDeep span)) c.consumed (some [])) c := by
    rw [CursorStep.run, recordedBlock, nested_of_le hle]
  refine ⟨_, _, hrun, ?_, rfl, ⟨fun _ => hfull, fun _ α block => nested_of_le hle span block⟩,
    fun _ => ⟨rfl, rfl⟩, fun hlt => absurd hfull (Nat.ne_of_lt hlt)⟩
  rw [performed_nested_nil, List.append_nil]
  exact h

/-- The cursor at the start of a block. -/
theorem Books.enter (h : Books items limit blocks past c) (hlt : blocks < limit) :
    Books items limit (blocks + 1) past { c with depth := c.depth + 1 } :=
  ⟨h.consumed, h.items, h.groups, congrArg (· + 1) h.depth, hlt⟩

/-- The cursor at the end of a block. -/
theorem Books.leave (h : Books items limit (blocks + 1) past c) :
    Books items limit blocks past { c with depth := blocks } :=
  ⟨h.consumed, h.items, h.groups, rfl, Nat.le_of_succ_le h.room⟩

/-- A block that is run keeps the books as its body does. -/
theorem keeps_nested {span : Span} {body : List CursorStep}
    (h : Books items limit blocks past c) (hlt : blocks < limit)
    (hbody : BlockKeeps items limit (blocks + 1) past body { c with depth := c.depth + 1 }) :
    Keeps items limit blocks past (.nested span body) c := by
  obtain ⟨records, fault?, c₁, hblock, hbooks⟩ := hbody
  have hd : c.depth < limit := h.depth.symm ▸ hlt
  have hclosed : c₁.depth - 1 = c.depth := by rw [hbooks.depth, h.depth, Nat.add_sub_cancel]
  have hnested : Reading.nested limit span (CursorStep.runBlock limit body) c =
      .ok (records, fault?) { c₁ with depth := c.depth } := by
    rw [nested_ok hd hblock, hclosed]
  have hrun : (CursorStep.nested span body).run limit c =
      .ok (.step (blockOutcome fault?) c₁.consumed (some records))
        { c₁ with depth := c.depth } := by
    rw [CursorStep.run, recordedBlock, hnested]
    cases fault? <;> rfl
  have hroom : blocks ≠ limit := Nat.ne_of_lt hlt
  refine ⟨_, _, hrun, ?_, rfl, ⟨fun hrefused => ?_, fun hfull => absurd hfull hroom⟩,
    fun hfull => absurd hfull hroom, fun _ => ⟨records, fault?, c₁, hblock, rfl, rfl⟩⟩
  · rw [h.depth]
    exact hbooks.leave
  · have hpure := hrefused Unit (pure ())
    rw [nested_of_lt hd] at hpure
    cases hpure

/-! ## All operations -/

mutual

/-- **Each operation keeps the books.** -/
theorem run_keeps (step : CursorStep) {blocks : Nat} {past : List Performed} {c : Cursor}
    (h : Books items limit blocks past c) : Keeps items limit blocks past step c := by
  cases step with
  | atEnd => exact keeps_atEnd h
  | advance => exact keeps_advance h
  | nextItem => exact keeps_nextItem h
  | expectToken token => exact keeps_expectToken h token
  | expectOperator => exact keeps_expectOperator h
  | openGroup => exact keeps_openGroup h
  | closeGroup span => exact keeps_closeGroup h span
  | descend levels => exact keeps_descend h levels
  | nested span body =>
    by_cases hlt : blocks < limit
    · exact keeps_nested h hlt (runBlock_keeps body (h.enter hlt))
    · exact keeps_nested_refused h (Nat.le_antisymm h.room (Nat.not_lt.1 hlt)) span body

theorem runBlock_keeps (steps : List CursorStep) {blocks : Nat} {past : List Performed}
    {c : Cursor} (h : Books items limit blocks past c) :
    BlockKeeps items limit blocks past steps c := by
  cases steps with
  | nil =>
    refine ⟨[], none, c, rfl, ?_⟩
    rw [performedAll_nil, List.append_nil]
    exact h
  | cons step steps =>
    obtain ⟨record, c₁, hrun, hbooks, -⟩ := run_keeps step h
    cases houtcome : record.outcome with
    | error fault =>
      refine ⟨[record], some fault, c₁, ?_, ?_⟩
      · rw [CursorStep.runBlock, bind_ok hrun]
        simp only [houtcome]
        rfl
      · rw [CursorStep.performedAll, performedAll_nil, List.append_nil]
        exact hbooks
    | ok answer =>
      obtain ⟨records, fault?, c₂, hrest, hall⟩ := runBlock_keeps steps hbooks
      refine ⟨record :: records, fault?, c₂, ?_, ?_⟩
      · rw [CursorStep.runBlock, bind_ok hrun]
        simp only [houtcome]
        rw [bind_ok hrest]
        rfl
      · rw [CursorStep.performedAll, ← List.append_assoc]
        exact hall

end

end Reckoner
