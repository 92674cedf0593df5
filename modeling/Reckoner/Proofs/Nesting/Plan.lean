import Reckoner.Proofs.Cursor.Readings

/-!
# Plans of readings

A reading with a limit mixes what it does with the question whether one more
level may be opened.  A `Plan` is the same reading without an answer to this
question: steps that leave the depth of the cursor alone, and nested bodies with
the lexeme that opens them.

A plan can be run under a limit (`Plan.run`), and it can be traced
(`Plan.trace`): a trace notes each level that is opened and how many levels are
open around it, which follows from the shape of the plan and not from the
counter of the cursor.  Under a limit a trace is the trace without one, cut off
where a level would be opened inside of `limit` others (`Plan.isCut_trace`).
-/

namespace Reckoner

/-- Whether a fault says that a level is one too many. -/
def Fault.isTooDeep : Fault → Bool
  | tooDeep _ => true
  | _ => false

namespace Reading

variable {α β : Type}

/-! ## Readings at one level -/

/-- The reading leaves the depth of the cursor alone, and never says that a
level is one too many. -/
def Flat (r : Reading α) : Prop :=
  ∀ c, match r c with
    | .ok _ c' => c'.depth = c.depth
    | .error fault c' => c'.depth = c.depth ∧ fault.isTooDeep = false

theorem flat_pure (a : α) : Flat (pure a : Reading α) := fun _ => rfl

theorem flat_throw {fault : Fault} (h : fault.isTooDeep = false) :
    Flat (throw fault : Reading α) := fun _ => ⟨rfl, h⟩

theorem Flat.bind {x : Reading α} {f : α → Reading β} (hx : Flat x) (hf : ∀ a, Flat (f a)) :
    Flat (x >>= f) := by
  intro c
  have hxc := hx c
  cases h : x c with
  | ok a c₁ =>
    rw [h] at hxc
    have hfc := hf a c₁
    rw [bind_ok h, ← show c₁.depth = c.depth from hxc]
    exact hfc
  | error fault c₁ =>
    rw [h] at hxc
    rw [bind_error h]
    exact hxc

theorem flat_atEnd : Flat atEnd := fun _ => rfl

theorem flat_advance : Flat advance := by
  rintro ⟨_ | ⟨item, items⟩, n, g, d⟩ <;> rfl

theorem flat_nextItem : Flat nextItem := by
  refine flat_advance.bind fun item? => ?_
  cases item? with
  | none => exact flat_throw rfl
  | some item => exact flat_pure item

theorem flat_expectToken (token : Token) : Flat (expectToken token) := by
  refine flat_nextItem.bind fun item => ?_
  split
  · exact flat_pure item
  · exact flat_throw rfl

theorem flat_expectOperator : Flat expectOperator := by
  refine flat_nextItem.bind fun item => ?_
  split
  · exact flat_pure _
  · exact flat_throw rfl

theorem flat_openGroup : Flat openGroup := fun _ => rfl

theorem flat_closeGroup (span : Span) : Flat (closeGroup span) := by
  rintro ⟨items, n, _ | g, d⟩
  · exact ⟨rfl, rfl⟩
  · rfl

theorem flat_finish (v : Number) : Flat (finish v) := by
  rintro ⟨_ | ⟨item, items⟩, n, _ | g, d⟩ <;> first | rfl | exact ⟨rfl, rfl⟩

end Reading

open Reading

/-! ## Plans -/

/-- What a reading does, when a level is opened inside of others but not whether
there is room for it. -/
inductive Plan : Type 1 where
  /-- The reading is done. -/
  | done (value : Number)
  /-- A reading at the same level comes first. -/
  | flat {α : Type} (r : Reading α) (h : Flat r) (next : α → Plan)
  /-- A body comes first, in a level that `item` opens. -/
  | nested (item : Lexeme) (body : Plan) (next : Number → Plan)

namespace Plan

/-- The plan that fails at once. -/
def fail (fault : Fault) (h : fault.isTooDeep = false) : Plan :=
  flat (throw fault : Reading Number) (flat_throw h) done

/-- The plan that goes on with the value of the first one. -/
def bind : Plan → (Number → Plan) → Plan
  | done v, k => k v
  | flat r h next, k => flat r h fun a => (next a).bind k
  | nested item body next, k => nested item body fun v => (next v).bind k

/-- The plan of a whole expression. -/
def whole (p : Plan) : Plan :=
  flat atEnd flat_atEnd fun
    | true => fail .empty rfl
    | false => p.bind fun v => flat (finish v) (flat_finish v) done

/-! ## Running a plan -/

/-- The reading that is planned, with at most `limit` levels inside of each
other. -/
def run (limit : Nat) : Plan → Reading Number
  | done v => return v
  | flat r _ next => do (next (← r)).run limit
  | nested item body next => do (next (← Reading.nested limit item.span (body.run limit))).run limit

section

variable (limit : Nat)

theorem run_fail (fault : Fault) (h : fault.isTooDeep = false) :
    (fail fault h).run limit = throw fault := bind_pure _

theorem run_bind (p : Plan) (k : Number → Plan) :
    (p.bind k).run limit = p.run limit >>= fun v => (k v).run limit := by
  induction p with
  | done v => rw [bind, run, pure_bind]
  | flat r h next ih => simp only [bind, run, bind_assoc, ih]
  | nested item body next _ ih => simp only [bind, run, bind_assoc, ih]

/-- A whole plan is run as a whole expression is read. -/
theorem evaluate_run (p : Plan) (items : List Lexeme) :
    evaluate (p.run limit) items = outcome (p.whole.run limit (.ofList items)) := by
  cases items with
  | nil => rfl
  | cons item items =>
    have hwhole : p.whole.run limit (.ofList (item :: items)) =
        (p.bind fun v => flat (finish v) (flat_finish v) done).run limit
          (.ofList (item :: items)) := rfl
    have hfinish : (fun v => (flat (finish v) (flat_finish v) done).run limit) = finish :=
      funext fun v => bind_pure (finish v)
    rw [evaluate_eq_outcome (List.cons_ne_nil item items), hwhole, run_bind, hfinish]

end

/-! ## Tracing a plan -/

/-- The opening of a level. -/
structure Opening where
  /-- The lexeme that opens it. -/
  item : Lexeme
  /-- The number of levels that are open around it. -/
  around : Nat

/-- What happens while a plan is run. -/
structure Trace where
  /-- The levels that are opened. -/
  openings : List Opening
  /-- The result in the end. -/
  result : EStateM.Result Fault Cursor Number

/-- The trace with more openings before it. -/
def Trace.after (openings : List Opening) (t : Trace) : Trace :=
  ⟨openings ++ t.openings, t.result⟩

/-- Whether a limit, if there is one, leaves room for one more level. -/
def hasRoom : (limit : Option Nat) → Cursor → Bool
  | none, _ => true
  | some limit, c => c.depth < limit

/-- The trace of a plan with or without a limit, inside of `around` levels. -/
def trace (limit : Option Nat) : Plan → (around : Nat) → Cursor → Trace
  | done v, _, c => ⟨[], .ok v c⟩
  | flat r _ next, around, c =>
    match r c with
    | .ok a c => (next a).trace limit around c
    | .error fault c => ⟨[], .error fault c⟩
  | nested item body next, around, c =>
    if hasRoom limit c then
      let inner := body.trace limit (around + 1) { c with depth := c.depth + 1 }
      match inner.result with
      | .ok v c =>
        ((next v).trace limit around { c with depth := c.depth - 1 }).after
          (⟨item, around⟩ :: inner.openings)
      | .error fault c =>
        ⟨⟨item, around⟩ :: inner.openings, .error fault { c with depth := c.depth - 1 }⟩
    else ⟨[], .error (.tooDeep item.span) c⟩

/-- The cursor that a result leaves behind. -/
def cursorOf {α : Type} : EStateM.Result Fault Cursor α → Cursor
  | .ok _ c => c
  | .error _ c => c

variable {limit : Option Nat} {around : Nat} {c : Cursor}

section

variable {α : Type} {r : Reading α} {h : Flat r} {next : α → Plan} {a : α} {c' : Cursor}
  {fault : Fault}

theorem trace_flat_ok (hr : r c = .ok a c') :
    (flat r h next).trace limit around c = (next a).trace limit around c' := by
  rw [trace, hr]

theorem trace_flat_error (hr : r c = .error fault c') :
    (flat r h next).trace limit around c = ⟨[], .error fault c'⟩ := by
  rw [trace, hr]

end

section

variable {item : Lexeme} {body : Plan} {next : Number → Plan} {v : Number} {c' : Cursor}
  {fault : Fault} {openings : List Opening}

theorem trace_nested_ok (hroom : hasRoom limit c = true)
    (hbody : body.trace limit (around + 1) { c with depth := c.depth + 1 } =
      ⟨openings, .ok v c'⟩) :
    (nested item body next).trace limit around c =
      ((next v).trace limit around { c' with depth := c'.depth - 1 }).after
        (⟨item, around⟩ :: openings) := by
  rw [trace, if_pos hroom, hbody]

theorem trace_nested_error (hroom : hasRoom limit c = true)
    (hbody : body.trace limit (around + 1) { c with depth := c.depth + 1 } =
      ⟨openings, .error fault c'⟩) :
    (nested item body next).trace limit around c =
      ⟨⟨item, around⟩ :: openings, .error fault { c' with depth := c'.depth - 1 }⟩ := by
  rw [trace, if_pos hroom, hbody]

theorem trace_nested_of_full (hroom : ¬hasRoom limit c = true) :
    (nested item body next).trace limit around c = ⟨[], .error (.tooDeep item.span) c⟩ := by
  rw [trace, if_neg hroom]

end

/-- Running a plan is tracing it, when the openings are forgotten. -/
theorem result_trace (p : Plan) (limit around : Nat) (c : Cursor) :
    (p.trace (some limit) around c).result = p.run limit c := by
  induction p generalizing around c with
  | done v => rfl
  | flat r h next ih =>
    cases hr : r c with
    | ok a c' => rw [trace_flat_ok hr, run, bind_ok hr, ih]
    | error fault c' => rw [trace_flat_error hr, run, bind_error hr]
  | nested item body next ihBody ih =>
    by_cases hroom : c.depth < limit
    · have hroom' : hasRoom (some limit) c = true := decide_eq_true hroom
      have hresult := ihBody (around + 1) { c with depth := c.depth + 1 }
      cases hbody : body.trace (some limit) (around + 1) { c with depth := c.depth + 1 } with
      | mk openings result =>
        rw [hbody] at hresult
        cases result with
        | ok v c' =>
          rw [trace_nested_ok hroom' hbody, run, bind_ok (nested_ok hroom hresult.symm)]
          exact ih v around _
        | error fault c' =>
          rw [trace_nested_error hroom' hbody, run, bind_error (nested_error hroom hresult.symm)]
    · have hroom' : ¬hasRoom (some limit) c = true := by simpa [hasRoom] using hroom
      rw [trace_nested_of_full hroom', run, bind_error (nested_of_le (Nat.not_lt.1 hroom) ..)]

/-- Each level that is opened is closed again, whatever the result. -/
theorem depth_trace (p : Plan) (limit : Option Nat) (around : Nat) (c : Cursor) :
    (cursorOf (p.trace limit around c).result).depth = c.depth := by
  induction p generalizing around c with
  | done v => rfl
  | flat r h next ih =>
    have hflat := h c
    cases hr : r c with
    | ok a c' =>
      rw [hr] at hflat
      rw [trace_flat_ok hr, ih]
      exact hflat
    | error fault c' =>
      rw [hr] at hflat
      rw [trace_flat_error hr]
      exact hflat.1
  | nested item body next ihBody ih =>
    by_cases hroom : hasRoom limit c = true
    · have hdepth := ihBody (around + 1) { c with depth := c.depth + 1 }
      cases hbody : body.trace limit (around + 1) { c with depth := c.depth + 1 } with
      | mk openings result =>
        rw [hbody] at hdepth
        cases result with
        | ok v c' =>
          rw [trace_nested_ok hroom hbody]
          exact (ih v around _).trans (congrArg (· - 1) hdepth)
        | error fault c' =>
          rw [trace_nested_error hroom hbody]
          exact congrArg (· - 1) hdepth
    · rw [trace_nested_of_full hroom]
      rfl

/-- Without a limit no level is too many. -/
theorem trace_none_ne_tooDeep (p : Plan) (around : Nat) (c c' : Cursor) (span : Span) :
    (p.trace none around c).result ≠ .error (.tooDeep span) c' := by
  induction p generalizing around c c' with
  | done v => nofun
  | flat r h next ih =>
    have hflat := h c
    cases hr : r c with
    | ok a c₁ =>
      rw [trace_flat_ok hr]
      exact ih a around c₁ c'
    | error fault c₁ =>
      rw [hr] at hflat
      rw [trace_flat_error hr]
      rintro ⟨⟩
      cases hflat.2
  | nested item body next ihBody ih =>
    have hne := ihBody (around + 1) { c with depth := c.depth + 1 }
    cases hbody : body.trace none (around + 1) { c with depth := c.depth + 1 } with
    | mk openings result =>
      cases result with
      | ok v c₁ =>
        rw [trace_nested_ok rfl hbody]
        exact ih v around _ c'
      | error fault c₁ =>
        rw [hbody] at hne
        rw [trace_nested_error rfl hbody]
        rintro ⟨⟩
        exact hne c₁ rfl

/-! ## Where a limit cuts -/

/-- A trace is cut off by a limit: it is left as it is when no level is opened
inside of `limit` others, and otherwise ends at the first one that is. -/
inductive IsCut (limit : Nat) (free : Trace) : Trace → Prop where
  | whole (h : ∀ o ∈ free.openings, o.around < limit) : IsCut limit free free
  | tooDeep {before after : List Opening} {o : Opening} (c : Cursor)
      (hfree : free.openings = before ++ o :: after) (hbefore : ∀ o ∈ before, o.around < limit)
      (ho : o.around = limit) : IsCut limit free ⟨before, .error (.tooDeep o.item.span) c⟩

namespace IsCut

variable {limit around : Nat} {free cut : Trace} {c : Cursor}

theorem around_lt (h : IsCut limit free cut) : ∀ o ∈ cut.openings, o.around < limit := by
  cases h with
  | whole h => exact h
  | tooDeep c hfree hbefore ho => exact hbefore

theorem after {openings : List Opening} (ho : ∀ o ∈ openings, o.around < limit)
    (h : IsCut limit free cut) : IsCut limit (free.after openings) (cut.after openings) := by
  cases h with
  | whole h => exact .whole (List.forall_mem_append.2 ⟨ho, h⟩)
  | @tooDeep before after o c hfree hbefore haround =>
    have hopenings : (free.after openings).openings = (openings ++ before) ++ o :: after := by
      rw [Trace.after, hfree, List.append_assoc]
    exact .tooDeep c hopenings (List.forall_mem_append.2 ⟨ho, hbefore⟩) haround

/-- Below the limit a level is cut where its body is, or else where the rest of
the plan is. -/
theorem nested {item : Lexeme} {body : Plan} {next : Number → Plan} (hd : c.depth = around)
    (hlt : around < limit)
    (hbody : IsCut limit (body.trace none (around + 1) { c with depth := c.depth + 1 })
      (body.trace (some limit) (around + 1) { c with depth := c.depth + 1 }))
    (hnext : ∀ v c', c'.depth = around →
      IsCut limit ((next v).trace none around c') ((next v).trace (some limit) around c')) :
    IsCut limit ((nested item body next).trace none around c)
      ((nested item body next).trace (some limit) around c) := by
  have hroom : hasRoom (some limit) c = true := decide_eq_true (hd.symm ▸ hlt)
  have hclosed := body.depth_trace none (around + 1) { c with depth := c.depth + 1 }
  cases hfree : body.trace none (around + 1) { c with depth := c.depth + 1 } with
  | mk openings result =>
    rw [hfree] at hbody hclosed
    generalize hcut : body.trace (some limit) (around + 1) { c with depth := c.depth + 1 } = cut
      at hbody
    cases hbody with
    | whole h =>
      have hopenings : ∀ o ∈ (⟨item, around⟩ :: openings : List Opening), o.around < limit :=
        List.forall_mem_cons.2 ⟨hlt, h⟩
      cases result with
      | ok v c' =>
        have hback : c'.depth - 1 = around := by
          rw [show c'.depth = c.depth + 1 from hclosed, hd, Nat.add_sub_cancel]
        rw [trace_nested_ok rfl hfree, trace_nested_ok hroom hcut]
        exact (hnext v { c' with depth := c'.depth - 1 } hback).after hopenings
      | error fault c' =>
        rw [trace_nested_error rfl hfree, trace_nested_error hroom hcut]
        exact .whole hopenings
    | @tooDeep before after o c₁ hopen hbefore ho =>
      have hstart : ∀ o ∈ (⟨item, around⟩ :: before : List Opening), o.around < limit :=
        List.forall_mem_cons.2 ⟨hlt, hbefore⟩
      obtain rfl : openings = before ++ o :: after := hopen
      rw [trace_nested_error hroom hcut]
      cases result with
      | ok v c' =>
        rw [trace_nested_ok rfl hfree]
        have hsplit (rest : Trace) :
            (rest.after (⟨item, around⟩ :: (before ++ o :: after))).openings =
              (⟨item, around⟩ :: before) ++ o :: (after ++ rest.openings) := by
          simp [Trace.after]
        exact .tooDeep _ (hsplit _) hstart ho
      | error fault c' =>
        rw [trace_nested_error rfl hfree]
        exact .tooDeep _ rfl hstart ho

end IsCut

/-- **A limit only cuts.**  Under a limit a plan does what it does without one,
up to the first level that would be opened inside of `limit` others. -/
theorem isCut_trace (p : Plan) {limit around : Nat} {c : Cursor} (hd : c.depth = around)
    (hle : around ≤ limit) :
    IsCut limit (p.trace none around c) (p.trace (some limit) around c) := by
  induction p generalizing around c with
  | done v => exact .whole nofun
  | flat r h next ih =>
    have hflat := h c
    cases hr : r c with
    | ok a c' =>
      rw [hr] at hflat
      rw [trace_flat_ok hr, trace_flat_ok hr]
      exact ih a (hd ▸ hflat) hle
    | error fault c' =>
      rw [trace_flat_error hr, trace_flat_error hr]
      exact .whole nofun
  | nested item body next ihBody ih =>
    obtain hlt | rfl := Nat.lt_or_eq_of_le hle
    · have hdeeper : c.depth + 1 = around + 1 := by rw [hd]
      exact .nested hd hlt (ihBody hdeeper hlt) fun v c' hd' => ih v hd' hle
    · -- the first level is the one that is too many
      have hfull : ¬hasRoom (some around) c = true := by simp [hasRoom, hd]
      have hfirst : ∃ after, ((nested item body next).trace none around c).openings =
          [] ++ ⟨item, around⟩ :: after := by
        cases hbody : body.trace none (around + 1) { c with depth := c.depth + 1 } with
        | mk openings result =>
          cases result with
          | ok v c' => exact ⟨_, by rw [trace_nested_ok rfl hbody]; rfl⟩
          | error fault c' => exact ⟨_, by rw [trace_nested_error rfl hbody]; rfl⟩
      obtain ⟨after, hafter⟩ := hfirst
      rw [trace_nested_of_full hfull]
      exact .tooDeep c hafter nofun rfl

end Plan

end Reckoner
