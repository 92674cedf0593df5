import Reckoner.Proofs.Grouped
import Reckoner.Proofs.Infixed.Tree
import Reckoner.Proofs.Postfixed
import Reckoner.Proofs.Prefixed
import Reckoner.Proofs.Token.Words

/-!
# The notations agree

One tree over literals, written in each of the four notations with spaces
between its words, has the same value in all of them, which is the value of the
tree (`notations_agree`).  A tree that is too high keeps its value in the
postfix notation; the prefix and the grouped notation refuse it, and both point
at the same operator of the tree.
-/

namespace Reckoner

/-! ## Texts of trees -/

/-- The characters of a piece. -/
def Piece.chars : Piece Literal → List Char
  | operand l => l.chars
  | operator op => [op.symbol]
  | leftParen => ['(']
  | rightParen => [')']

theorem Piece.isWord (piece : Piece Literal) :
    IsWord piece.chars (piece.map Literal.number).token := by
  cases piece with
  | operand l => exact l.isWord
  | operator op => exact isWord_operator op
  | leftParen => exact isWord_leftParen
  | rightParen => exact isWord_rightParen

namespace Expression

variable (t : Expression Literal) (n : Notation)

/-- The words of a tree in a notation. -/
def words : List (List Char) := (t.written n).map Piece.chars

/-- The text of a tree in a notation. -/
def text : String := String.ofList (spaced (t.words n))

/-- Where the words stand in the text. -/
def spans : List Span := spansFrom 0 (t.words n)

/-- The tree of the numbers that the literals stand for. -/
def numbers : Expression Number := t.map Literal.number

/-- Each word of a text is a token of its own. -/
theorem tokenize_text : tokenize (t.text n) =
    List.zipWith Lexeme.mk ((t.numbers.written n).map Piece.token) (t.spans n) := by
  rw [tokenize, text, String.toList_ofList, tokenizeChars_eq_lexemesFrom, words,
    lexemesFrom_spaced Piece.isWord, numbers, written_map, List.map_map]
  rfl

theorem length_spans : (t.spans n).length = ((t.numbers.written n).map Piece.token).length := by
  rw [spans, length_spansFrom, words, numbers, written_map]
  simp

/-- The tokens of the text are those of the tree. -/
theorem spells_tokenize : Spells (tokenize (t.text n)) (t.numbers.written n) := by
  have hfst := List.map_fst_zip (Nat.le_of_eq (t.length_spans n).symm)
  rw [List.zip, List.map_zipWith] at hfst
  rw [Spells, tokenize_text, List.map_zipWith]
  exact hfst

/-- The spans of the text are where its words stand. -/
theorem map_span_tokenize : (tokenize (t.text n)).map Lexeme.span = t.spans n := by
  have hsnd := List.map_snd_zip (Nat.le_of_eq (t.length_spans n))
  rw [List.zip, List.map_zipWith] at hsnd
  rw [tokenize_text, List.map_zipWith]
  exact hsnd

/-- The lexeme read for a piece stands where the word of the piece does. -/
theorem mem_zip_spans {path : List Side} {piece : Piece Number} {item : Lexeme}
    {pieces : List (List Side × Piece Literal)}
    (h : ((path, piece), item) ∈
      (pieces.map (Prod.map id (Piece.map Literal.number))).zip (tokenize (t.text n))) :
    ∃ piece', piece'.map Literal.number = piece ∧
      ((path, piece'), item.span) ∈ pieces.zip (t.spans n) := by
  rw [List.zip_map_left] at h
  obtain ⟨⟨⟨path', piece'⟩, item'⟩, hmem, heq⟩ := List.mem_map.1 h
  cases heq
  refine ⟨piece', rfl, ?_⟩
  rw [← map_span_tokenize, List.zip_map_right]
  exact List.mem_map.2 ⟨_, hmem, rfl⟩

end Expression

/-! ## The four notations -/

namespace Notation

variable (t : Expression Literal)

theorem evaluate_text_postfixed :
    postfixed.evaluate (t.text .postfixed) = .ok t.numbers.value :=
  Postfixed.evaluate_postfixed (t.spells_tokenize .postfixed)

theorem evaluate_text {n : Notation} (h : t.height ≤ 256) :
    n.evaluate (t.text n) = .ok t.numbers.value := by
  have hs := t.spells_tokenize n
  have hd : t.numbers.height ≤ 256 := by rwa [Expression.numbers, Expression.height_map]
  cases n with
  | prefixed => exact Prefixed.evaluate_prefixed hs hd
  | postfixed => exact evaluate_text_postfixed t
  | grouped => exact Grouped.evaluate_grouped hs hd
  | infixed => exact Infixed.evaluate_infixed hs hd

theorem evaluate_text_prefixed_tooDeep (h : 256 < t.height) : ∃ path op s,
    t.firstBelow? 256 = some path ∧
    ((path, Piece.operator op), s) ∈ t.prefixedAt.zip (t.spans .prefixed) ∧
    prefixed.evaluate (t.text .prefixed) = .error (.tooDeep s) := by
  obtain ⟨path, op, item, hp, hm, hf⟩ := Prefixed.evaluate_prefixed_tooDeep
    (t.spells_tokenize .prefixed) (by rwa [Expression.numbers, Expression.height_map])
  rw [Expression.numbers, Expression.firstBelow?_map] at hp
  rw [Expression.numbers, Expression.prefixedAt_map] at hm
  obtain ⟨piece, hpiece, hmem⟩ := t.mem_zip_spans .prefixed hm
  refine ⟨path, op, item.span, hp, ?_, hf⟩
  cases piece <;> cases hpiece
  exact hmem

theorem evaluate_text_grouped_tooDeep (h : 256 < t.height) : ∃ path s,
    t.firstBelow? 256 = some path ∧
    ((path, Piece.leftParen), s) ∈ t.groupedAt.zip (t.spans .grouped) ∧
    grouped.evaluate (t.text .grouped) = .error (.tooDeep s) := by
  obtain ⟨path, item, hp, hm, hf⟩ := Grouped.evaluate_grouped_tooDeep
    (t.spells_tokenize .grouped) (by rwa [Expression.numbers, Expression.height_map])
  rw [Expression.numbers, Expression.firstBelow?_map] at hp
  rw [Expression.numbers, Expression.groupedAt_map] at hm
  obtain ⟨piece, hpiece, hmem⟩ := t.mem_zip_spans .grouped hm
  refine ⟨path, item.span, hp, ?_, hf⟩
  cases piece <;> cases hpiece
  exact hmem

/-- **The four notations agree on every tree.**  A tree with at most 256
operators above each other has its value in each notation, and in the postfix
notation every tree has.  Of a higher tree the prefix and the grouped notation
refuse the operator and the parenthesis of one and the same node, the first one
with 256 operators above it. -/
theorem notations_agree :
    (t.height ≤ 256 → ∀ n : Notation, n.evaluate (t.text n) = .ok t.numbers.value) ∧
    postfixed.evaluate (t.text .postfixed) = .ok t.numbers.value ∧
    (256 < t.height → ∃ path op s s', t.firstBelow? 256 = some path ∧
      ((path, Piece.operator op), s) ∈ t.prefixedAt.zip (t.spans .prefixed) ∧
      prefixed.evaluate (t.text .prefixed) = .error (.tooDeep s) ∧
      ((path, Piece.leftParen), s') ∈ t.groupedAt.zip (t.spans .grouped) ∧
      grouped.evaluate (t.text .grouped) = .error (.tooDeep s')) := by
  refine ⟨fun h n => evaluate_text t h, evaluate_text_postfixed t, fun h => ?_⟩
  obtain ⟨path, op, s, hp, hm, he⟩ := evaluate_text_prefixed_tooDeep t h
  obtain ⟨path', s', hp', hm', he'⟩ := evaluate_text_grouped_tooDeep t h
  obtain rfl : path = path' := Option.some.inj (hp.symm.trans hp')
  exact ⟨path, op, s, s', hp, hm, he, hm', he'⟩

theorem notations_agree_difference : ∃ t : Expression Literal,
    t.text .infixed = "( 8 - 4 ) - 2" ∧ ∀ n : Notation, n.evaluate (t.text n) = .ok (.integer 2) :=
  let digit (c : Char) (h : c.isDigit = true) : Literal :=
    ⟨[c], none, List.cons_ne_nil c [], by simpa using h, by simp⟩
  let t : Expression Literal :=
    .node .sub (.node .sub (.leaf (digit '8' rfl)) (.leaf (digit '4' rfl))) (.leaf (digit '2' rfl))
  ⟨t, rfl, (notations_agree t).1 (by decide)⟩

end Notation

end Reckoner
