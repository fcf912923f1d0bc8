import QuerySignature.Proofs.Text.Upper
import QuerySignature.Proofs.Token.Exchange

/-!
# Proofs/Token/Segment — a block cut out of its text

Tokens that follow each other come from pieces that do (`segment_of_placed`).  A segment that starts with the
keyword of a block and ends with a brace is cut in the same way when it stands alone (`IsCut.segment`): a
brace closes nothing that was open, and no string that is cut short gets longer.
-/

namespace QuerySignature

open Piece Lexeme Scan

/-! ## Pieces of some tokens -/

/-- **A token of a cut** divides its pieces as it divides its tokens. -/
theorem split_placed {pieces : List Piece} {position : Position} {front back : List Token} {token : Token}
    (h : placed position pieces = front ++ token :: back) :
    ∃ first second, pieces = first ++ .word token.kind token.text :: second ∧ placed position first = front ∧
      token.position = position.after (written first) ∧
      placed (token.position.after token.text) second = back := by
  induction pieces generalizing position front with
  | nil => exact absurd h.symm (List.append_ne_nil_of_right_ne_nil _ (List.cons_ne_nil _ _))
  | cons piece pieces ih =>
    have further {taken : List Token} (none_ : placed position [piece] = taken)
        (h : placed (position.after piece.text) pieces = front.drop taken.length ++ token :: back)
        (starts : front = taken ++ front.drop taken.length) :
        ∃ first second, piece :: pieces = first ++ .word token.kind token.text :: second ∧
          placed position first = front ∧ token.position = position.after (written first) ∧
          placed (token.position.after token.text) second = back := by
      obtain ⟨first, second, rfl, before, at_, behind⟩ := ih h
      refine ⟨piece :: first, second, rfl, ?_, ?_, behind⟩
      · have whole := placed_append position [piece] first
        rw [List.singleton_append, none_, written_cons, written_nil, List.append_nil, before] at whole
        rw [whole, ← starts]
      · rw [at_, written_cons, Position.after_append]
    cases piece with
    | blank c => exact further rfl h rfl
    | comment text => exact further rfl h rfl
    | word kind text =>
      cases front with
      | nil =>
        obtain ⟨rfl, rfl⟩ := List.cons.inj h
        exact ⟨[], pieces, rfl, rfl, rfl, rfl⟩
      | cons t front =>
        obtain ⟨rfl, behind⟩ := List.cons.inj h
        exact further rfl behind rfl

/-- **Tokens that follow each other come from pieces that do**: the first and the last of them are words. -/
theorem segment_of_placed {pieces : List Piece} {position : Position} {front inner back : List Token}
    {first last : Token} (h : placed position pieces = front ++ (first :: (inner ++ [last])) ++ back) :
    ∃ before middle after, pieces = before ++ (.word first.kind first.text :: (middle ++
        [.word last.kind last.text])) ++ after ∧ placed position before = front ∧
      placed (position.after (written before)) (.word first.kind first.text :: (middle ++
        [.word last.kind last.text])) = first :: (inner ++ [last]) ∧
      first.position = position.after (written before) ∧
      last.position = position.after (written before ++ first.text ++ written middle) := by
  rw [List.append_assoc, List.cons_append] at h
  obtain ⟨before, others, rfl, rfl, at_, behind⟩ := split_placed h
  rw [List.append_assoc, List.singleton_append] at behind
  obtain ⟨middle, after, rfl, rfl, at_', -⟩ := split_placed behind
  refine ⟨before, middle, after, ?_, rfl, ?_, at_, ?_⟩
  · simp only [List.append_assoc, List.cons_append, List.nil_append]
  · rw [placed_word, placed_append, ← at_, placed_word, placed_nil, ← at_']
  · rw [at_', at_, Position.after_append, Position.after_append]

/-! ## The same cut when it stands alone -/

/-- A brace may stand at a boundary where one stands already. -/
theorem Lexeme.exchange_brace (x y : Text) : Exchange ('\x7d' :: x) ('\x7d' :: y) where
  heads := ⟨_, _, x, y, rfl, rfl, .head _, .head _, Iff.rfl⟩
  closing := by
    rw [show run isIriChar ('\x7d' :: y) = 0 from rfl]
    exact nofun
  scheme := by
    rw [show run isSchemeChar ('\x7d' :: y) = 0 from rfl]
    exact nofun
  label := by
    rw [show run isLabelChar ('\x7d' :: y) = 0 from rfl]
    exact nofun
  brace := .head _

/-- A long string that does not end in a text ends in no beginning of it. -/
theorem Lexeme.longString_prefix {mark : Char} {s x : Text} {taken : Nat}
    (h : longString mark (s ++ x) taken = none) : longString mark s taken = none := by
  cases found : longString mark s taken with
  | none => rfl
  | some n =>
    have inside := (longString_extent found).2
    rw [← List.append_nil s] at found
    rw [longString_inside found inside x] at h
    cases h

/-- A word that is no truth value does not see the character before it. -/
theorem stands_word {before before' : Option Char} {kind : Token.Kind} {c : Char} {text rest : Text}
    (t : c.toUpper ≠ 'T') (f : c.toUpper ≠ 'F') (stands : (Piece.word kind (c :: text)).Stands before rest) :
    (Piece.word kind (c :: text)).Stands before' rest := by
  refine ⟨stands.1, ?_⟩
  have at_ := stands.2
  rw [Piece.text, List.cons_append, lexeme?, truthValue_of_ne t f] at at_ ⊢
  exact at_

/-- **A segment up to a brace is cut alone as it is in its text.** -/
theorem IsCut.segment {before : Option Char} {kind : Token.Kind} {c : Char} {text rest : Text} {middle : List Piece}
    (t : c.toUpper ≠ 'T') (f : c.toUpper ≠ 'F')
    (cut : IsCut before (.word kind (c :: text) :: (middle ++ [.word .punctuation ['\x7d']])) rest) :
    IsCut none (.word kind (c :: text) :: (middle ++ [.word .punctuation ['\x7d']])) [] := by
  rw [← List.cons_append, isCut_append] at cut ⊢
  have alone : IsCut before (.word kind (c :: text) :: middle) ['\x7d'] := by
    refine IsCut.exchange (exchange_brace rest []) (fun front piece back _ mark _ body _ open_ => ?_) cut.1
    rw [show '\x7d' :: rest = ['\x7d'] ++ rest from rfl, ← List.append_assoc] at open_
    exact longString_prefix open_
  refine ⟨⟨stands_word t f alone.1, ?_⟩, ⟨rfl, rfl⟩, trivial⟩
  have last : lastOr none (c :: text) = lastOr before (c :: text) := by
    unfold lastOr
    cases h : (c :: text).getLast? with
    | none => exact absurd (List.getLast?_eq_none_iff.mp h) (List.cons_ne_nil _ _)
    | some _ => rfl
  rw [Piece.text, last]
  exact alone.2

end QuerySignature
