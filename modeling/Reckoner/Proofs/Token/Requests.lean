import Reckoner.Proofs.Token.Segmentation

/-!
# Streams as cursors

A stream is more than a place in a text: it may be inside of a literal, and it may
hold a token that it came to while it was looking for the end of a literal.
Nothing of this shows from outside.  A stream can be asked for its next token,
for the token after some others, and for all tokens that a copy of it would give;
in whatever order, it answers as a cursor into the list of all tokens of its text
(`serveAll_ofChars`).

The invariant behind this is `StandsAt`: the tokens ahead of the stream are those
behind the cursor, and between two requests the stream is not inside of a literal
and holds a token only if that is the character that ended the literal handed out
last (`Paused`).
-/

namespace Reckoner

open TokenStream

/-! ## Requests -/

/-- What a stream of tokens can be asked for. -/
inductive TokenRequest where
  /-- The next token. -/
  | next
  /-- The token after the next `k`, which are skipped. -/
  | nth (k : Nat)
  /-- All tokens that a copy of the stream gives. -/
  | rest
deriving DecidableEq, Repr

/-- What a stream of tokens answers. -/
inductive TokenAnswer where
  | lexeme? (item : Option Lexeme)
  | lexemes (items : List Lexeme)
deriving DecidableEq

namespace TokenAnswer

/-- There is no token in the answer. -/
def IsEmpty : TokenAnswer → Prop
  | lexeme? item => item = none
  | lexemes items => items = []

end TokenAnswer

/-- The answer of a stream to a request, and the stream after it. -/
def TokenStream.serve (s : TokenStream) : TokenRequest → TokenAnswer × TokenStream
  | .next => (.lexeme? s.next.1, s.next.2)
  | .nth k => (.lexeme? (s.nth k).1, (s.nth k).2)
  | .rest => (.lexemes s.toList, s)

/-- The answer of a cursor into a list to a request, and its place after it.  At
the end it stays where it is. -/
def serveAt (items : List Lexeme) (place : Nat) : TokenRequest → TokenAnswer × Nat
  | .next => (.lexeme? items[place]?, min (place + 1) items.length)
  | .nth k => (.lexeme? items[place + k]?, min (place + k + 1) items.length)
  | .rest => (.lexemes (items.drop place), place)

/-- The answers to requests that are made one after the other, and the state after
them. -/
def serveAll {σ : Type} (serve : σ → TokenRequest → TokenAnswer × σ) (s : σ) :
    List TokenRequest → List TokenAnswer × σ
  | [] => ([], s)
  | request :: requests =>
    let served := serve s request
    let others := serveAll serve served.2 requests
    (served.1 :: others.1, others.2)

/-- Asked for the next token until there is none, the stream gives `items`. -/
inductive HandsOut : TokenStream → List Lexeme → Prop where
  | done {s : TokenStream} (h : s.next.1 = none) : HandsOut s []
  | more {s : TokenStream} {item : Lexeme} {items : List Lexeme} (h : s.next.1 = some item)
    (hrest : HandsOut s.next.2 items) : HandsOut s (item :: items)

/-- What a stream of `text` holds between two requests, when `last` is the token
that it handed out or skipped last. -/
structure Paused (text : List Char) (last : Option Lexeme) (s : TokenStream) : Prop where
  mode : s.mode = .between
  place : ∃ before, text = before ++ s.rest ∧ byteCount before = s.offset
  /-- A token is kept back only right after a literal, which it has ended. -/
  pending : ∀ item ∈ s.pending, ∃ v span before c, last = some ⟨.number v, span⟩ ∧
    text = before ++ c :: s.rest ∧ byteCount before = span.last + 1 ∧
    symbolAt? c (span.last + 1) = some item

/-! ## One token -/

theorem Paused.of_pending_eq_none {text : List Char} {s : TokenStream} {before : List Char}
    (hmode : s.mode = .between) (hpending : s.pending = none) (htext : text = before ++ s.rest)
    (hoffset : byteCount before = s.offset) (last : Option Lexeme) : Paused text last s where
  mode := hmode
  place := ⟨before, htext, hoffset⟩
  pending := by
    rw [hpending]
    nofun

/-- A scan that enters a text behind `before` stops between two tokens. -/
theorem paused_scan {text before rest : List Char} {mode : ReadingMode} {offset : Nat}
    (htext : text = before ++ rest) (hoffset : byteCount before = offset)
    (hmode : mode ≠ .between → before ≠ []) :
    Paused text (scan mode offset rest).1 (scan mode offset rest).2 := by
  have onward {before rest : List Char} {c : Char} {offset : Nat}
      (htext : text = before ++ c :: rest) (hoffset : byteCount before = offset) :
      text = (before ++ [c]) ++ rest ∧ byteCount (before ++ [c]) = offset + c.utf8Size := by
    simp [htext, hoffset]
  fun_induction scan mode offset rest generalizing before with
  | case1 offset => exact .of_pending_eq_none rfl rfl htext hoffset _
  | case2 offset start read pointSeen => exact .of_pending_eq_none rfl rfl htext hoffset _
  | case3 offset c rest next lexeme =>
    obtain ⟨htext', hoffset'⟩ := onward htext hoffset
    exact .of_pending_eq_none rfl rfl htext' hoffset' _
  | case4 | case5 | case6 | case7 =>
    -- the scan goes on behind the character
    rename_i ih
    obtain ⟨htext', hoffset'⟩ := onward htext hoffset
    exact ih htext' hoffset' (by simp)
  | case8 offset c rest next start read pointSeen hd =>
    -- the literal ends here, and the character that ends it may be a token itself
    obtain ⟨htext', hoffset'⟩ := onward htext hoffset
    have hpos : 0 < byteCount before := byteCount_pos (hmode (by simp))
    have hend : offset - 1 + 1 = offset := by omega
    refine ⟨rfl, ⟨_, htext', hoffset'⟩, fun item hitem => ?_⟩
    refine ⟨_, ⟨start, offset - 1⟩, before, c, rfl, htext, hoffset.trans hend.symm, ?_⟩
    rw [hend]
    exact hitem

theorem Paused.next {text : List Char} {last : Option Lexeme} {s : TokenStream}
    (h : Paused text last s) : Paused text s.next.1 s.next.2 := by
  obtain ⟨before, htext, hoffset⟩ := h.place
  cases hp : s.pending with
  | some item =>
    have hnext : s.next = (some item, { s with pending := none }) := by rw [TokenStream.next, hp]
    rw [hnext]
    refine ⟨h.mode, ⟨before, htext, hoffset⟩, fun item hitem => ?_⟩
    cases hitem
  | none =>
    have hnext : s.next = scan s.mode s.offset s.rest := by rw [TokenStream.next, hp]
    rw [hnext]
    exact paused_scan htext hoffset fun hne => absurd h.mode hne

/-- After a request without an answer no token is kept back. -/
theorem Paused.of_eq_none {text : List Char} {last : Option Lexeme} {s : TokenStream}
    (h : Paused text none s) : Paused text last s where
  mode := h.mode
  place := h.place
  pending := by
    intro item hitem
    obtain ⟨v, span, before, c, hlast, -⟩ := h.pending item hitem
    cases hlast

/-! ## The stream and the cursor -/

/-- The stream of `text` stands where the cursor stands in the list of all of its
tokens. -/
structure StandsAt (text : List Char) (items : List Lexeme) (s : TokenStream) (place : Nat) :
    Prop where
  ahead : s.ahead = items.drop place
  le : place ≤ items.length
  paused : Paused text (items.take place).getLast? s

variable {text : List Char} {items : List Lexeme} {s : TokenStream} {place : Nat}

/-- The next token of the stream is the one at the cursor, and both move on. -/
theorem StandsAt.next (h : StandsAt text items s place) :
    s.next.1 = items[place]? ∧ StandsAt text items s.next.2 (min (place + 1) items.length) := by
  have hpaused := h.paused.next
  have hle := h.le
  cases hn : s.next.1 with
  | none =>
    have hend : items.length ≤ place := by
      rw [← List.drop_eq_nil_iff, ← h.ahead, ahead_of_next_eq_none hn]
    have hplace : min (place + 1) items.length = place := by omega
    have hahead : s.next.2.ahead = s.ahead := by
      have hstays := congrArg Prod.fst (next_eq_none hn)
      rw [ahead_of_next_eq_none hn, ahead_of_next_eq_none hstays]
    rw [hn] at hpaused
    rw [hplace]
    exact ⟨(List.getElem?_eq_none hend).symm, hahead.trans h.ahead, hle, hpaused.of_eq_none⟩
  | some item =>
    have hahead := h.ahead.symm.trans (ahead_of_next_eq_some hn)
    have hlt : place < items.length := by
      refine Nat.lt_of_not_le fun hend => ?_
      rw [List.drop_eq_nil_of_le hend] at hahead
      cases hahead
    rw [List.drop_eq_getElem_cons hlt] at hahead
    obtain ⟨hitem, hrest⟩ := List.cons.inj hahead
    have hget : items[place]? = some item := by rw [List.getElem?_eq_getElem hlt, hitem]
    have hplace : min (place + 1) items.length = place + 1 := by omega
    rw [hn] at hpaused
    rw [hplace]
    refine ⟨hget.symm, hrest.symm, hlt, ?_⟩
    rw [List.take_add_one, hget, Option.toList, List.getLast?_concat]
    exact hpaused

/-- Skipping tokens of the stream moves the cursor by as many. -/
theorem StandsAt.nth (h : StandsAt text items s place) (k : Nat) :
    (s.nth k).1 = items[place + k]? ∧
      StandsAt text items (s.nth k).2 (min (place + k + 1) items.length) := by
  induction k generalizing s place with
  | zero => exact h.next
  | succ k ih =>
    obtain ⟨hitem, hnext⟩ := h.next
    rw [TokenStream.nth]
    rcases hn : s.next with ⟨_ | item, s'⟩
    · rw [hn] at hitem hnext
      have hend : items.length ≤ place := List.getElem?_eq_none_iff.1 hitem.symm
      have hplace : min (place + 1) items.length = min (place + (k + 1) + 1) items.length := by
        omega
      rw [hplace] at hnext
      exact ⟨(List.getElem?_eq_none (by omega)).symm, hnext⟩
    · rw [hn] at hitem hnext
      have hlt : place < items.length := (List.getElem?_eq_some_iff.1 hitem.symm).1
      have hplace : min (place + 1) items.length = place + 1 := by omega
      rw [hplace] at hnext
      have hskipped := ih hnext
      rw [Nat.add_right_comm place 1 k] at hskipped
      exact hskipped

/-- The stream answers each request as the cursor does. -/
theorem StandsAt.serve (h : StandsAt text items s place) (request : TokenRequest) :
    (s.serve request).1 = (serveAt items place request).1 ∧
      StandsAt text items (s.serve request).2 (serveAt items place request).2 := by
  cases request with
  | next => exact ⟨congrArg _ h.next.1, h.next.2⟩
  | nth k => exact ⟨congrArg _ (h.nth k).1, (h.nth k).2⟩
  | rest => exact ⟨congrArg _ (s.toList_eq_ahead.trans h.ahead), h⟩

theorem StandsAt.serveAll (h : StandsAt text items s place) (requests : List TokenRequest) :
    (serveAll TokenStream.serve s requests).1 = (serveAll (serveAt items) place requests).1 ∧
      StandsAt text items (serveAll TokenStream.serve s requests).2
        (serveAll (serveAt items) place requests).2 := by
  induction requests generalizing s place with
  | nil => exact ⟨rfl, h⟩
  | cons request requests ih =>
    obtain ⟨hanswer, hserved⟩ := h.serve request
    obtain ⟨hanswers, hall⟩ := ih hserved
    exact ⟨by rw [Reckoner.serveAll, Reckoner.serveAll, hanswer, hanswers], hall⟩

/-- At the start the cursor is in front of all tokens. -/
theorem standsAt_ofChars (text : List Char) :
    StandsAt text (tokenizeChars text) (ofChars text) 0 where
  ahead := (toList_eq_ahead (ofChars text)).symm
  le := Nat.zero_le _
  paused := ⟨rfl, ⟨[], rfl, rfl⟩, nofun⟩

/-! ## The end -/

/-- A cursor that has come to the end stays there and has nothing more to give. -/
theorem serveAt_length (items : List Lexeme) (request : TokenRequest) :
    (serveAt items items.length request).1.IsEmpty ∧
      (serveAt items items.length request).2 = items.length := by
  cases request with
  | next => exact ⟨List.getElem?_eq_none (Nat.le_refl _), Nat.min_eq_right (by omega)⟩
  | nth k => exact ⟨List.getElem?_eq_none (by omega), Nat.min_eq_right (by omega)⟩
  | rest => exact ⟨List.drop_length, rfl⟩

theorem isEmpty_of_mem_serveAll_length (items : List Lexeme) (requests : List TokenRequest) :
    ∀ answer ∈ (serveAll (serveAt items) items.length requests).1, answer.IsEmpty := by
  induction requests with
  | nil => nofun
  | cons request requests ih =>
    obtain ⟨hempty, hplace⟩ := serveAt_length items request
    rw [serveAll, hplace]
    exact List.forall_mem_cons.2 ⟨hempty, ih⟩

/-- Where a token is asked for and there is none, the cursor is at the end. -/
theorem serveAt_eq_none {request : TokenRequest}
    (h : (serveAt items place request).1 = .lexeme? none) :
    (serveAt items place request).2 = items.length := by
  cases request with
  | next =>
    have hend := List.getElem?_eq_none_iff.1 (TokenAnswer.lexeme?.inj h)
    exact Nat.min_eq_right (by omega)
  | nth k =>
    have hend := List.getElem?_eq_none_iff.1 (TokenAnswer.lexeme?.inj h)
    exact Nat.min_eq_right (by omega)
  | rest => cases h

theorem place_of_none_mem {requests : List TokenRequest}
    (h : .lexeme? none ∈ (serveAll (serveAt items) place requests).1) :
    (serveAll (serveAt items) place requests).2 = items.length := by
  have stays (requests : List TokenRequest) :
      (serveAll (serveAt items) items.length requests).2 = items.length := by
    induction requests with
    | nil => rfl
    | cons request requests ih => rw [serveAll, (serveAt_length items request).2, ih]
  induction requests generalizing place with
  | nil => cases h
  | cons request requests ih =>
    rcases List.mem_cons.1 h with hnone | hlater
    · rw [serveAll, serveAt_eq_none hnone.symm]
      exact stays requests
    · exact ih hlater

/-! ## All requests -/

/-- A stream gives the tokens ahead, and then has none. -/
theorem handsOut_ahead (s : TokenStream) : HandsOut s s.ahead := by
  generalize hitems : s.ahead = items
  induction items generalizing s with
  | nil =>
    cases hn : s.next.1 with
    | none => exact .done hn
    | some item =>
      rw [ahead_of_next_eq_some hn] at hitems
      cases hitems
  | cons item items ih =>
    cases hn : s.next.1 with
    | none =>
      rw [ahead_of_next_eq_none hn] at hitems
      cases hitems
    | some first =>
      rw [ahead_of_next_eq_some hn] at hitems
      obtain ⟨rfl, hrest⟩ := List.cons.inj hitems
      exact .more hn (ih _ hrest)

theorem handsOut_iff : HandsOut s items ↔ items = s.ahead := by
  constructor
  · intro h
    induction h with
    | done hn => exact (ahead_of_next_eq_none hn).symm
    | more hn _ ih => rw [ahead_of_next_eq_some hn, ih]
  · rintro rfl
    exact handsOut_ahead s

/-- The stream of `text` that has come to `s` has given the answers of a cursor into
the list `items`. -/
structure ServesAsCursor (text : List Char) (items : List Lexeme)
    (requests : List TokenRequest) (answers : List TokenAnswer) (s : TokenStream) : Prop where
  answers_eq : answers = (serveAll (serveAt items) 0 requests).1
  /-- Once there was no token, there is none ever after. -/
  exhausted : .lexeme? none ∈ answers →
    ∀ more, ∀ answer ∈ (serveAll TokenStream.serve s more).1, answer.IsEmpty
  paused : Paused text (items.take (serveAll (serveAt items) 0 requests).2).getLast? s

/-- **A stream of tokens is a cursor into the list of its tokens.** -/
theorem serveAll_ofChars (text : String) :
    (∀ items, HandsOut (ofChars text.toList) items ↔ items = tokenize text) ∧
    (tokenize text).length ≤ text.length ∧
    ∀ requests, ServesAsCursor text.toList (tokenize text) requests
      (serveAll TokenStream.serve (ofChars text.toList) requests).1
      (serveAll TokenStream.serve (ofChars text.toList) requests).2 := by
  have hread : tokenize text = (ofChars text.toList).ahead := toList_eq_ahead _
  refine ⟨fun items => ?_, ?_, fun requests => ?_⟩
  · rw [handsOut_iff, hread]
  · rw [hread]
    exact length_ahead_le _
  · obtain ⟨hanswers, hstands⟩ := (standsAt_ofChars text.toList).serveAll requests
    refine ⟨hanswers, fun hnone more => ?_, hstands.paused⟩
    rw [hanswers] at hnone
    have hend := place_of_none_mem hnone
    have hmore := (hstands.serveAll more).1
    rw [hend] at hmore
    rw [hmore]
    exact isEmpty_of_mem_serveAll_length _ more

/-- The copy gives the minus sign too, which the stream has seen behind the literal. -/
example : (serveAll TokenStream.serve (ofChars ['1', '-', '2']) [.next, .rest, .nth 1, .next]).1 =
    [.lexeme? (some ⟨.number (.integer 1), .single 0⟩),
      .lexemes [⟨.operator .sub, .single 1⟩, ⟨.number (.integer 2), .single 2⟩],
      .lexeme? (some ⟨.number (.integer 2), .single 2⟩), .lexeme? none] := rfl

end Reckoner
