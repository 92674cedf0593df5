import Reckoner.Text.Cluster
import Reckoner.Text.Offset

/-!
# Typed lines

A line that was typed may hold backspaces.  Each of them takes back the cluster
before it.  Clusters are those of the line as it was typed, so characters that a
backspace has kept apart stay apart when the backspace is carried out.

The length of a cluster is kept in one byte.  So a cluster of 256 bytes or more
is taken back only by as many bytes as its length leaves when divided by 256.
-/

namespace Reckoner

/-- The backspace character. -/
def backspace : Char := '\x08'

/-- Takes bytes back from a text that is given newest character first.  Nothing
is taken when they are not the bytes of whole characters. -/
def takeBack (bytes : Nat) (text : List Char) : List Char :=
  match splitAtByte? bytes text with
  | some (_, before) => before
  | none => text

/-- A line while its backspaces are carried out. -/
structure TypedLine where
  /-- The text that is left, newest character first. -/
  kept : List Char
  /-- The lengths of the clusters that backspaces may take back, newest first. -/
  lengths : List Nat
deriving DecidableEq, Repr

namespace TypedLine

/-- The line before anything was typed. -/
def empty : TypedLine := ⟨[], []⟩

/-- The number of lengths that one byte tells apart. -/
def lengthLimit : Nat := 256

/-- The line after a cluster has been typed. -/
def type (line : TypedLine) (cluster : List Char) : TypedLine :=
  if cluster = [backspace] then
    match line.lengths with
    | [] => line
    | length :: lengths => ⟨takeBack length line.kept, lengths⟩
  else
    ⟨cluster.reverse ++ line.kept, byteCount cluster % lengthLimit :: line.lengths⟩

end TypedLine

/-- What is left of a line after its backspaces have been carried out. -/
def typedLine (line : String) : String :=
  String.ofList ((clusters line.toList).foldl TypedLine.type .empty).kept.reverse

/-! ## Lines without backspaces -/

/-- Clusters without backspaces are kept. -/
theorem TypedLine.kept_foldl_type {typed : List (List Char)} (h : backspace ∉ typed.flatten)
    (line : TypedLine) :
    (typed.foldl type line).kept = typed.flatten.reverse ++ line.kept := by
  induction typed generalizing line with
  | nil => rfl
  | cons cluster typed ih =>
    rw [List.flatten_cons, List.mem_append, not_or] at h
    have hcluster : cluster ≠ [backspace] := fun hc => h.1 (hc ▸ List.mem_cons_self)
    rw [List.foldl_cons, ih h.2, type, if_neg hcluster, List.flatten_cons, List.reverse_append,
      List.append_assoc]

/-- A line without backspaces is left as it was typed. -/
theorem typedLine_of_not_mem {line : String} (h : backspace ∉ line.toList) :
    typedLine line = line := by
  rw [← Cluster.flatten_clusters line.toList] at h
  rw [typedLine, TypedLine.kept_foldl_type h, Cluster.flatten_clusters, TypedLine.empty,
    List.append_nil, List.reverse_reverse, String.ofList_toList]

end Reckoner
