import Mathlib.Data.List.Nodup
import Reckoner.Proofs.Faults
import Reckoner.Proofs.Token.Segmentation

/-!
# Diagnostics

A fault with a span is shown by a line below the text, which marks the span with
carets.  The span is that of exactly one token, and this token is the one that the
fault names (`Fault.Blames`).  As a token covers a word of the text, the line has a
space for each character before the word and a caret for each character in it,
however many bytes these characters take (`Notation.evaluate_diagnostic`).

Faults with a span come from the steps of the automata, so it is enough to look at
one step of each notation; the places of the tokens are those of
`tokenize_segmentation`.
-/

namespace Reckoner

/-! ## Blame -/

/-- The tokens that open a level. -/
def Notation.OpensLevel : Notation → Token → Prop
  | prefixed, .operator _ | grouped, .leftParen | infixed, .leftParen | infixed, .operator .sub =>
    True
  | _, _ => False

/-- A fault with a span names `token`, where the tokens in `opens` open a level. -/
def Fault.Blames (opens : Token → Prop) (token : Token) : Fault → Prop
  | unexpectedToken named _ | unfinished named _ => token = named
  | insufficientOperands op _ => token = .operator op
  | unbalancedParen _ => token = .rightParen
  | tooDeep _ => opens token
  | empty | unexpectedEnd | wrongOperandCount _ | unclosedParen _ => False

namespace Automaton

variable {σ α : Type} {A : Automaton σ α} {opens : Token → Prop} {items : List Lexeme}
  {fault : Fault}

/-- The faults of the steps name the tokens they happen at. -/
def BlamesTokens (A : Automaton σ α) (opens : Token → Prop) : Prop :=
  ∀ (s : σ) (item : Lexeme) (fault : Fault), A.step s item = .error fault →
    fault.Blames opens item.token

/-- What evaluates as an automaton runs blames the tokens that the automaton blames. -/
theorem Viable.blames_of_eq_map {evaluate : List Lexeme → Except Fault Number}
    (hviable : A.Viable) (hA : A.BlamesTokens opens) (value : α → Number)
    (he : ∀ items, evaluate items = (A.run items).map value)
    (h : evaluate items = .error fault) {span : Span} (hspan : fault.span? = some span) :
    ∃ item ∈ items, item.span = span ∧ fault.Blames opens item.token := by
  have hrun : A.run items = .error fault := map_run_eq_error_iff.1 ((he items).symm.trans h)
  obtain ⟨before, item, after, s, rfl, -, hstep⟩ := hviable.step_of_span_eq_some hrun hspan
  have hitem := hviable.step_span s item fault hstep
  rw [hspan] at hitem
  exact ⟨item, List.mem_append_right _ (List.mem_cons_self ..), (Option.some.inj hitem).symm,
    hA s item fault hstep⟩

/-- A level that is refused is one that the token would open. -/
theorem blames_of_ite {room : Prop} [Decidable room] {s : σ} {span : Span} {token : Token}
    (hopens : opens token)
    (h : (if room then Except.ok s else .error (.tooDeep span)) = .error fault) :
    fault.Blames opens token := by
  split at h
  · cases h
  · cases h
    exact hopens

end Automaton

open Automaton

theorem Prefixed.blamesTokens_automaton (limit : Nat) :
    (automaton limit).BlamesTokens Notation.prefixed.OpensLevel := by
  rintro (⟨frames⟩ | ⟨t⟩) ⟨token, span⟩ fault h
  · cases token with
    | operator op => exact blames_of_ite trivial h
    | number v => cases h
    | leftParen | rightParen =>
      cases h
      rfl
  · cases h
    rfl

theorem Postfixed.blamesTokens_automaton :
    automaton.BlamesTokens Notation.postfixed.OpensLevel := by
  rintro ⟨operands⟩ ⟨token, span⟩ fault h
  cases token with
  | operator op => rcases operands with _ | ⟨top, _ | ⟨second, below⟩⟩ <;> cases h <;> rfl
  | number v => cases h
  | leftParen | rightParen =>
    cases h
    rfl

theorem Grouped.blamesTokens_automaton (limit : Nat) :
    (automaton limit).BlamesTokens Notation.grouped.OpensLevel := by
  rintro (⟨frames⟩ | ⟨frames, lhs⟩ | ⟨frames, t⟩ | ⟨t⟩) ⟨token, span⟩ fault h
  · cases token with
    | leftParen => exact blames_of_ite trivial h
    | number v => cases h
    | operator op | rightParen =>
      cases h
      rfl
  · cases token <;> cases h <;> rfl
  · cases token <;> cases h <;> rfl
  · cases h
    rfl

theorem Infixed.blamesTokens_automaton (limit : Nat) :
    (automaton limit).BlamesTokens Notation.infixed.OpensLevel := by
  rintro (⟨p, outer⟩ | ⟨waiting, t, outer⟩) ⟨token, span⟩ fault h
  · cases token with
    | number v => cases h
    | leftParen => exact blames_of_ite trivial h
    | rightParen =>
      cases h
      rfl
    | operator op =>
      cases op with
      | sub => exact blames_of_ite trivial h
      | add | mul | div =>
        cases h
        rfl
  · cases token with
    | operator op => cases h
    | number v | leftParen =>
      cases h
      rfl
    | rightParen =>
      cases outer with
      | nil =>
        cases h
        rfl
      | cons p outer => cases h

/-- A fault with a span names the token whose span it has. -/
theorem Notation.evaluateItems_blames (n : Notation) {items : List Lexeme} {fault : Fault}
    (h : n.evaluateItems items = .error fault) {span : Span} (hspan : fault.span? = some span) :
    ∃ item ∈ items, item.span = span ∧ fault.Blames n.OpensLevel item.token := by
  cases n with
  | prefixed =>
    exact (Prefixed.viable_automaton 256).blames_of_eq_map (Prefixed.blamesTokens_automaton 256) _
      (fun items => Prefixed.evaluate_eq_map_run items 256) h hspan
  | postfixed =>
    refine Postfixed.viable_automaton.blames_of_eq_map Postfixed.blamesTokens_automaton id
      (fun items => ?_) h hspan
    rw [Except.map_id]
    exact Postfixed.evaluate_eq_run items
  | grouped =>
    exact (Grouped.viable_automaton 256).blames_of_eq_map (Grouped.blamesTokens_automaton 256) _
      (fun items => Grouped.evaluate_eq_map_run items 256) h hspan
  | infixed =>
    exact (Infixed.viable_automaton 256).blames_of_eq_map (Infixed.blamesTokens_automaton 256) _
      (fun items => Infixed.evaluate_eq_map_run items 256) h hspan

/-! ## Marks below a text -/

/-- A span that ends before another one starts is not that one. -/
theorem Segmentation.nodup {offset : Nat} {text : List Char} {spans : List Span}
    (h : Segmentation offset text spans) : spans.Nodup := by
  refine h.ordered.imp_of_mem fun hs _ hlt heq => ?_
  have hbounds := h.first_le_last hs
  rw [← heq] at hlt
  omega

theorem Token.SpelledBy.ne_nil {token : Token} {word : List Char} (h : token.SpelledBy word) :
    word ≠ [] := by
  cases h with
  | literal l =>
    obtain ⟨c, rest, hchars, -⟩ := l.chars_eq_cons
    exact hchars ▸ List.cons_ne_nil c rest
  | leftParen | rightParen | operator => exact List.cons_ne_nil _ _

variable {text : String} {s : Span} {before word after : List Char}

theorem Cut.textIn_eq (h : Cut 0 text.toList s before word after) :
    s.textIn text = String.ofList word := by
  rw [Span.textIn, h.charsIn_eq]

theorem Cut.indentIn_eq (h : Cut 0 text.toList s before word after) :
    s.indentIn text.toList = before.length := by
  rw [Span.indentIn, h.text_eq, h.first_eq, Nat.zero_add, splitAtByte?_append]

/-- The line below a text marks the characters of the word that the span covers. -/
theorem Cut.underline_eq (h : Cut 0 text.toList s before word after) (hword : word ≠ []) :
    s.underline text = String.ofList
      (List.replicate before.length ' ' ++ List.replicate word.length '^') := by
  have hcarets : max 1 word.length = word.length :=
    Nat.max_eq_right (List.length_pos_iff.2 hword)
  rw [Span.underline]
  simp only [h.indentIn_eq, h.charsIn_eq, hcarets]

theorem Cut.length_underline_le (h : Cut 0 text.toList s before word after) (hword : word ≠ []) :
    (s.underline text).length ≤ text.length := by
  rw [h.underline_eq hword, ← String.length_toList (s := text), h.text_eq]
  simp

namespace Notation

/-- **Every diagnostic marks the token at fault.**  The span of a fault is that of
exactly one token of the text, which is the token that the fault names.  The token
is spelled by a word of the text, and the line below the text has a space for each
character before the word and a caret for each character of it. -/
theorem evaluate_diagnostic (n : Notation) (text : String) (fault : Fault) (s : Span)
    (h : n.evaluate text = .error fault) (hspan : fault.span? = some s) :
    ((tokenize text).map Lexeme.span).count s = 1 ∧
    ∃ item ∈ tokenize text, item.span = s ∧ fault.Blames n.OpensLevel item.token ∧
      ∃ before word after, Cut 0 text.toList s before word after ∧ item.token.SpelledBy word ∧
        s.textIn text = String.ofList word ∧
        s.underline text = String.ofList
          (List.replicate before.length ' ' ++ List.replicate word.length '^') ∧
        (s.underline text).length ≤ text.length := by
  obtain ⟨item, hitem, rfl, hblames⟩ := n.evaluateItems_blames h hspan
  obtain ⟨hsegmentation, -, -⟩ := tokenize_segmentation text
  have hread : tokenize text = lexemesFrom .between 0 text.toList :=
    tokenizeChars_eq_lexemesFrom text.toList
  obtain ⟨before, word, after, hcut, hspelled⟩ :=
    exists_cut_of_mem_lexemesFrom 0 text.toList item (hread ▸ hitem)
  have hword : word ≠ [] := hspelled.ne_nil
  exact ⟨List.count_eq_one_of_mem hsegmentation.nodup (List.mem_map_of_mem hitem),
    item, hitem, rfl, hblames, before, word, after, hcut, hspelled, hcut.textIn_eq,
    hcut.underline_eq hword, hcut.length_underline_le hword⟩

/-- The letter takes two bytes but one column. -/
theorem evaluate_diagnostic_wide_letter :
    infixed.evaluate "é 1 23" = .error (.unexpectedToken (.number (.integer 23)) ⟨5, 6⟩) ∧
    ((tokenize "é 1 23").map Lexeme.span).count ⟨5, 6⟩ = 1 ∧
    (⟨5, 6⟩ : Span).underline "é 1 23" = "    ^^" := by
  have hfault : infixed.evaluate "é 1 23" =
      .error (.unexpectedToken (.number (.integer 23)) ⟨5, 6⟩) := by
    rw [evaluate, evaluateItems, Infixed.evaluate_eq_map_run]
    rfl
  have hline : (⟨5, 6⟩ : Span).underline "é 1 23" = "    ^^" := rfl
  exact ⟨hfault, (evaluate_diagnostic infixed _ _ _ hfault rfl).1, hline⟩

end Notation

end Reckoner
