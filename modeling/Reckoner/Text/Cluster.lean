import Reckoner.Text.ClusterClass

/-!
# Clusters

A text falls apart into clusters: runs of characters that are printed and taken
back together.  Whether a character goes on with a cluster depends on its class
and on the classes of the characters that the cluster holds so far, by the rules
of Unicode for extended grapheme clusters.

Main statement: the clusters of a text are joined to that text again.
-/

namespace Reckoner

namespace Cluster

open ClusterClass (ofChar)

/-! ## Inside a cluster -/

/-- Whether a cluster ends in a consonant that a linker joins to the next one.
The cluster is given newest character first. -/
def endsInConjunct (cluster : List Char) : Bool :=
  let isMark (c : Char) : Bool :=
    ofChar c = .extending || ofChar c = .linker || ofChar c = .joiner
  (cluster.takeWhile isMark).any (fun c => ofChar c = .linker) &&
    ((cluster.dropWhile isMark).head?.map ofChar = some .consonant)

/-- Whether a cluster ends in a pictograph, its marks and a joiner.  The cluster
is given newest character first. -/
def endsInJoinedPictograph : List Char → Bool
  | [] => false
  | c :: before =>
    let isMark (c : Char) : Bool :=
      ofChar c = .extending || ofChar c = .linker || ofChar c = .nonJoiner
    ofChar c = .joiner && ((before.dropWhile isMark).head?.map ofChar = some .pictograph)

/-- Whether a cluster ends in the first half of a flag.  The cluster is given
newest character first. -/
def endsInHalfFlag (cluster : List Char) : Bool :=
  (cluster.takeWhile fun c => ofChar c = .regional).length % 2 = 1

/-- Whether a character of the class `next` goes on with a cluster whose newest
character is `last`.  The cluster is given newest character first. -/
def goesOn (last : Char) (cluster : List Char) (next : ClusterClass) : Bool :=
  match ofChar last, next with
  | .control, _ => false
  | _, .control => false
  | .leading, .leading | .leading, .vowel => true
  | .leading, .openSyllable | .leading, .closedSyllable => true
  | .openSyllable, .vowel | .openSyllable, .trailing => true
  | .vowel, .vowel | .vowel, .trailing => true
  | .closedSyllable, .trailing | .trailing, .trailing => true
  | _, .extending | _, .linker | _, .nonJoiner | _, .joiner | _, .spacing => true
  | .prepended, _ => true
  | _, .consonant => endsInConjunct cluster
  | _, .pictograph => endsInJoinedPictograph cluster
  | _, .regional => endsInHalfFlag cluster
  | _, _ => false

/-! ## The clusters of a text -/

/-- Adds a character to the clusters of the text before it.  The clusters and
the characters of each of them are given newest first. -/
def addChar : List (List Char) → Char → List (List Char)
  | [], c => [[c]]
  | [] :: done, c => [c] :: done
  | (last :: cluster) :: done, c =>
    if goesOn last (last :: cluster) (ofChar c) then (c :: last :: cluster) :: done
    else [c] :: (last :: cluster) :: done

end Cluster

/-- The clusters of a text. -/
def clusters (text : List Char) : List (List Char) :=
  ((text.foldl Cluster.addChar []).map List.reverse).reverse

namespace Cluster

/-! ## Nothing is lost -/

theorem flatten_addChar (done : List (List Char)) (c : Char) :
    ((addChar done c).map List.reverse).reverse.flatten =
      (done.map List.reverse).reverse.flatten ++ [c] := by
  match done with
  | [] => rfl
  | [] :: done => simp [addChar]
  | (last :: cluster) :: done =>
    rw [addChar]
    split <;> simp

/-- The clusters of a text, one after the other, are that text. -/
theorem flatten_clusters (text : List Char) : (clusters text).flatten = text := by
  suffices h : ∀ done : List (List Char),
      ((text.foldl addChar done).map List.reverse).reverse.flatten =
        (done.map List.reverse).reverse.flatten ++ text by
    simpa [clusters] using h []
  induction text with
  | nil => simp
  | cons c rest ih =>
    intro done
    rw [List.foldl_cons, ih, flatten_addChar, List.append_assoc, List.singleton_append]

end Cluster

end Reckoner
