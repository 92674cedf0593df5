/-!
# Stacks

A stack holds operands until an operator takes them.
-/

namespace Reckoner

/-- A stack; the first element of the list is the top. -/
structure Stack (α : Type) where
  elements : List α
deriving DecidableEq

namespace Stack

variable {α : Type}

/-- The stack without elements. -/
def empty : Stack α := ⟨[]⟩

/-- The number of elements. -/
def size (s : Stack α) : Nat := s.elements.length

/-- Whether there are no elements. -/
def isEmpty (s : Stack α) : Bool := s.elements.isEmpty

/-- The elements from the bottom to the top. -/
def toList (s : Stack α) : List α := s.elements.reverse

/-- Puts an element on top. -/
def push (s : Stack α) (a : α) : Stack α := ⟨a :: s.elements⟩

/-- The top element and the stack below it. -/
def pop? (s : Stack α) : Option (α × Stack α) :=
  match s.elements with
  | [] => none
  | top :: below => some (top, ⟨below⟩)

/-- The second element, the top element and the stack below both. -/
def popPair? (s : Stack α) : Option (α × α × Stack α) :=
  match s.elements with
  | top :: second :: below => some (second, top, ⟨below⟩)
  | _ => none

/-- The only element of a stack of size one; the size of any other stack. -/
def single (s : Stack α) : Except Nat α :=
  match s.elements with
  | [a] => .ok a
  | elements => .error elements.length

/-! ## Lists of elements -/

@[simp] theorem toList_empty : (empty : Stack α).toList = [] := rfl

@[simp] theorem toList_push (s : Stack α) (a : α) : (s.push a).toList = s.toList ++ [a] := by
  simp [toList, push]

@[simp] theorem length_toList (s : Stack α) : s.toList.length = s.size := by
  simp [toList, size]

theorem single_eq_ok_iff {s : Stack α} {a : α} : s.single = .ok a ↔ s = empty.push a := by
  constructor
  · intro h
    obtain ⟨_ | ⟨top, _ | ⟨second, others⟩⟩⟩ := s <;> cases h
    rfl
  · rintro rfl
    rfl

@[simp] theorem popPair?_push_push (s : Stack α) (a b : α) :
    ((s.push a).push b).popPair? = some (a, b, s) := rfl

end Stack

end Reckoner
