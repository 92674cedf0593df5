import Reckoner.Notation.Basic

/-!
# Transcripts

A transcript is what the program writes: results on the ordinary output, faults
on the error output.  Transcripts are joined in the order in which they are
written.
-/

namespace Reckoner

/-- Text written to the two outputs. -/
@[ext]
structure Transcript where
  /-- The ordinary output. -/
  out : String
  /-- The error output. -/
  err : String
deriving DecidableEq, Repr

namespace Transcript

/-- The transcript of writing nothing. -/
def empty : Transcript := ⟨"", ""⟩

/-- One transcript after another. -/
def append (a b : Transcript) : Transcript := ⟨a.out ++ b.out, a.err ++ b.err⟩

instance : Append Transcript := ⟨append⟩

/-- A line on the ordinary output. -/
def outLine (text : String) : Transcript := ⟨text ++ "\n", ""⟩

/-- A line on the error output. -/
def errLine (text : String) : Transcript := ⟨"", text ++ "\n"⟩

/-- Several transcripts in order. -/
def join (transcripts : List Transcript) : Transcript := transcripts.foldl append empty

@[simp] theorem out_append (a b : Transcript) : (a ++ b).out = a.out ++ b.out := rfl

@[simp] theorem err_append (a b : Transcript) : (a ++ b).err = a.err ++ b.err := rfl

@[simp] theorem out_empty : empty.out = "" := rfl

@[simp] theorem err_empty : empty.err = "" := rfl

@[simp] theorem out_outLine (text : String) : (outLine text).out = text ++ "\n" := rfl

@[simp] theorem err_outLine (text : String) : (outLine text).err = "" := rfl

@[simp] theorem append_empty (a : Transcript) : a ++ empty = a := by
  ext1 <;> simp

@[simp] theorem empty_append (a : Transcript) : empty ++ a = a := by
  ext1 <;> simp

theorem append_assoc (a b c : Transcript) : a ++ b ++ c = a ++ (b ++ c) := by
  ext1 <;> simp [String.append_assoc]

@[simp] theorem join_nil : join [] = empty := rfl

@[simp] theorem join_cons (a : Transcript) (transcripts : List Transcript) :
    join (a :: transcripts) = a ++ join transcripts := by
  suffices h : ∀ b : Transcript, transcripts.foldl append b = b ++ join transcripts by
    exact (h (empty ++ a)).trans (by rw [empty_append])
  induction transcripts with
  | nil => exact fun b => (append_empty b).symm
  | cons c transcripts ih =>
    intro b
    have hjoin : join (c :: transcripts) = c ++ join transcripts :=
      (ih (empty ++ c)).trans (by rw [empty_append])
    rw [hjoin, ← append_assoc]
    exact ih (b ++ c)

/-- The ordinary output of several transcripts. -/
theorem out_join (transcripts : List Transcript) :
    (join transcripts).out = String.join (transcripts.map out) := by
  rw [String.join, List.foldl_map]
  exact (List.foldl_hom out fun _ _ => rfl).symm

/-- The error output of several transcripts. -/
theorem err_join (transcripts : List Transcript) :
    (join transcripts).err = String.join (transcripts.map err) := by
  rw [String.join, List.foldl_map]
  exact (List.foldl_hom err fun _ _ => rfl).symm

end Transcript

/-! ## The report on one expression -/

/-- What introduces a fault: a word, on a red ground when colour is wanted. -/
def faultLabel (color : Bool) : String :=
  if color then "\x1b[41mError:\x1b[0m" else "Error:"

/-- The report on an expression with a fault: the explanation and, when the fault
lies at a place, the expression with that place underlined. -/
def faultReport (color : Bool) (expression : String) (fault : Fault) : Transcript :=
  let explanation := Transcript.errLine
    (faultLabel color ++ " Invalid expression '" ++ expression ++ "': " ++ fault.message)
  match fault.span? with
  | none => explanation
  | some span =>
    explanation ++ .errLine ("    " ++ expression) ++
      .errLine ("    " ++ span.underline expression)

/-- The report on an expression: the value or the fault. -/
def report (color : Bool) (n : Notation) (expression : String) : Transcript :=
  match n.evaluate expression with
  | .ok value => .outLine (expression ++ " = " ++ value.text)
  | .error fault => faultReport color expression fault

/-- Whether a text is an expression of a notation. -/
def isValid (n : Notation) (expression : String) : Bool :=
  match n.evaluate expression with
  | .ok _ => true
  | .error _ => false

end Reckoner
