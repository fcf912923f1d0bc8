import QuerySignature.Proofs.Token.Extent

/-!
# Proofs/Token/Cut — the pieces into which a text is cut

The scanner passes a text piece by piece: a character of white space, a comment, or a word, which becomes a
token.  `IsCut` says of a list of pieces that the scanner finds each of them in front of the text that
follows; the pieces rebuild their text (`Piece.written`) and give its tokens (`Piece.placed`).  The main
statement is `tokenize_eq_ok`: the tokens of a text are those of its pieces, and the one that ends it.
-/

namespace QuerySignature

open Scan

/-- **A piece of a text**: one character of white space, a comment, or a word of some kind. -/
inductive Piece where
  | blank (c : Char)
  | comment (text : Text)
  | word (kind : Token.Kind) (text : Text)

namespace Piece

/-- The characters of a piece. -/
def text : Piece → Text
  | blank c => [c]
  | comment text => text
  | word _ text => text

/-- The class of lexemes to which a piece belongs, unless it is white space. -/
def class? : Piece → Option Scan.Class
  | blank _ => none
  | comment _ => some .comment
  | word kind _ => some (.token kind)

/-- The text of pieces. -/
def written (pieces : List Piece) : Text :=
  pieces.flatMap text

/-- **The tokens of pieces** of which the first stands at a position. -/
def placed : Position → List Piece → List Token
  | _, [] => []
  | position, word kind text :: pieces => ⟨kind, text, position⟩ :: placed (position.after text) pieces
  | position, piece :: pieces => placed (position.after piece.text) pieces

/-- **The scanner finds the piece in front of a text**; `before` is the character in front of it. -/
def Stands (before : Option Char) (piece : Piece) (rest : Text) : Prop :=
  match piece.class? with
  | none => piece.text.all Text.isBlank = true
  | some kind => piece.text.head?.any Text.isBlank = false ∧
      lexeme? before (piece.text ++ rest) = some (kind, piece.text.length)

@[simp]
theorem written_nil : written [] = [] := rfl

@[simp]
theorem written_cons (piece : Piece) (pieces : List Piece) :
    written (piece :: pieces) = piece.text ++ written pieces :=
  List.flatMap_cons

@[simp]
theorem written_append (first second : List Piece) :
    written (first ++ second) = written first ++ written second :=
  List.flatMap_append

@[simp]
theorem placed_nil (position : Position) : placed position [] = [] := rfl

@[simp]
theorem placed_word (position : Position) (kind : Token.Kind) (text : Text) (pieces : List Piece) :
    placed position (word kind text :: pieces) =
      ⟨kind, text, position⟩ :: placed (position.after text) pieces := rfl

@[simp]
theorem placed_blank (position : Position) (c : Char) (pieces : List Piece) :
    placed position (blank c :: pieces) = placed (position.next c) pieces := rfl

@[simp]
theorem placed_comment (position : Position) (text : Text) (pieces : List Piece) :
    placed position (comment text :: pieces) = placed (position.after text) pieces := rfl

theorem placed_append (position : Position) (first second : List Piece) :
    placed position (first ++ second) =
      placed position first ++ placed (position.after (written first)) second := by
  induction first generalizing position with
  | nil => rfl
  | cons piece first ih =>
    rw [written_cons, Position.after_append, List.cons_append]
    cases piece with
    | blank c =>
      rw [placed_blank, placed_blank, ih]
      rfl
    | comment text => rw [placed_comment, placed_comment, ih, Piece.text]
    | word kind text => rw [placed_word, placed_word, ih, Piece.text, List.cons_append]

/-- A comment or a word has at least one character. -/
theorem Stands.length_pos {before : Option Char} {piece : Piece} {rest : Text}
    (h : piece.Stands before rest) : 0 < piece.text.length := by
  cases piece with
  | blank c => exact Nat.one_pos
  | comment text => exact (lexeme?_extent h.2).1
  | word kind text => exact (lexeme?_extent h.2).1

end Piece

open Piece

/-! ## Cuts -/

/-- The character at the end of a text, or the one before it if there is none. -/
def lastOr (before : Option Char) (text : Text) : Option Char :=
  text.getLast?.or before

@[simp]
theorem lastOr_nil (before : Option Char) : lastOr before [] = before := rfl

theorem lastOr_append (before : Option Char) (first second : Text) :
    lastOr before (first ++ second) = lastOr (lastOr before first) second := by
  rw [lastOr, lastOr, lastOr, List.getLast?_append, Option.or_assoc]

/-- **The pieces are the beginning of a cut**: the scanner finds each of them in front of the others and the
rest. -/
def IsCut : Option Char → List Piece → Text → Prop
  | _, [], _ => True
  | before, piece :: pieces, rest =>
    piece.Stands before (written pieces ++ rest) ∧ IsCut (lastOr before piece.text) pieces rest

theorem isCut_append {before : Option Char} {first second : List Piece} {rest : Text} :
    IsCut before (first ++ second) rest ↔
      IsCut before first (written second ++ rest) ∧ IsCut (lastOr before (written first)) second rest := by
  induction first generalizing before with
  | nil => simp [IsCut]
  | cons piece first ih =>
    rw [List.cons_append, IsCut, IsCut, ih, written_append, List.append_assoc, written_cons, lastOr_append,
      and_assoc]

/-! ## The scanner finds cuts -/

namespace Scan

variable {limits : Limits} {before : Option Char} {position : Position} {fuel room : Nat}
  {found tokens : List Token}

theorem Cursor.skip_append (before : Option Char) (position : Position) (text rest : Text) :
    (⟨before, position, text ++ rest⟩ : Cursor).skip text.length =
      ⟨lastOr before text, position.after text, rest⟩ := by
  simp [Cursor.skip, Cursor.slice, lastOr]

/-- A place at which the scanner does not stop starts with a piece. -/
theorem stands_of_tokensFrom {c : Char} {rest : Text}
    (h : tokensFrom limits (fuel + 1) ⟨before, position, c :: rest⟩ room found = .ok tokens) :
    ∃ (piece : Piece) (tail : Text), c :: rest = piece.text ++ tail ∧ piece.Stands before tail := by
  by_cases blank : Text.isBlank c = true
  · exact ⟨.blank c, rest, rfl, by simpa [Stands, class?, Piece.text] using blank⟩
  cases at_ : lexeme? before (c :: rest) with
  | none => simp [tokensFrom, blank, at_] at h
  | some lexeme =>
    obtain ⟨kind, n⟩ := lexeme
    obtain ⟨pos, inside⟩ := lexeme?_extent at_
    have first : ((c :: rest).take n).head?.any Text.isBlank = false := by
      obtain ⟨m, rfl⟩ := Nat.exists_eq_succ_of_ne_zero (Nat.pos_iff_ne_zero.mp pos)
      simpa using blank
    have whole : lexeme? before ((c :: rest).take n ++ (c :: rest).drop n) =
        some (kind, ((c :: rest).take n).length) := by
      rw [List.take_append_drop, at_, List.length_take, Nat.min_eq_left inside]
    cases kind with
    | comment => exact ⟨.comment _, _, (List.take_append_drop n _).symm, first, whole⟩
    | openIri => simp [tokensFrom, blank, at_] at h
    | token kind => exact ⟨.word kind _, _, (List.take_append_drop n _).symm, first, whole⟩

/-- **What the scanner does at a piece**: it goes on behind it, and keeps the token of a word if there is
room. -/
theorem tokensFrom_stands {piece : Piece} {rest : Text} (h : piece.Stands before rest) :
    tokensFrom limits (fuel + 1) ⟨before, position, piece.text ++ rest⟩ room found =
      match piece, room with
      | .word .., 0 => .error (.ceiling .tokenCount (limits.maxTokens + 1) limits.maxTokens position)
      | .word kind text, room + 1 =>
        tokensFrom limits fuel ⟨lastOr before text, position.after text, rest⟩ room
          (⟨kind, text, position⟩ :: found)
      | piece, room =>
        tokensFrom limits fuel ⟨lastOr before piece.text, position.after piece.text, rest⟩ room found := by
  have skip := Cursor.skip_append before position piece.text rest
  obtain ⟨c, text, first⟩ := List.exists_cons_of_length_pos h.length_pos
  cases piece with
  | blank d =>
    have dark : Text.isBlank d = true := by simpa [Stands, class?, Piece.text] using h
    simp only [Piece.text, List.cons_append, List.nil_append, tokensFrom, dark, if_true] at skip ⊢
    rw [show (1 : Nat) = [d].length from rfl, skip]
  | comment word =>
    obtain ⟨light, at_⟩ := h
    obtain rfl : word = c :: text := first
    have dark : ¬Text.isBlank c = true := by simpa [Piece.text] using light
    simp only [Piece.text, List.cons_append] at at_ skip ⊢
    rw [tokensFrom]
    dsimp only
    rw [if_neg dark, at_]
    dsimp only
    rw [skip]
  | word kind word =>
    obtain ⟨light, at_⟩ := h
    obtain rfl : word = c :: text := first
    have dark : ¬Text.isBlank c = true := by simpa [Piece.text] using light
    simp only [Piece.text, List.cons_append] at at_ skip ⊢
    rw [tokensFrom]
    dsimp only
    rw [if_neg dark, at_]
    dsimp only
    rw [skip, Cursor.slice, ← List.cons_append, List.take_left]
    cases room <;> rfl

/-- **What the scanner has found is the tokens of a cut.** -/
theorem isCut_of_tokensFrom {text : Text} (enough : text.length ≤ fuel)
    (h : tokensFrom limits fuel ⟨before, position, text⟩ room found = .ok tokens) :
    ∃ pieces, IsCut before pieces [] ∧ written pieces = text ∧ (placed position pieces).length ≤ room ∧
      tokens = found.reverse ++ placed position pieces ++ [⟨.eof, [], position.after text⟩] := by
  induction fuel generalizing before position text room found with
  | zero =>
    obtain rfl := List.length_eq_zero_iff.mp (Nat.le_zero.mp enough)
    obtain rfl := Except.ok.inj h
    exact ⟨[], trivial, rfl, Nat.zero_le _, by simp⟩
  | succ fuel ih =>
    match text with
    | [] =>
      obtain rfl := Except.ok.inj h
      exact ⟨[], trivial, rfl, Nat.zero_le _, by simp⟩
    | c :: rest =>
      obtain ⟨piece, tail, whole, stands⟩ := stands_of_tokensFrom h
      have short : tail.length ≤ fuel := by
        have := congrArg List.length whole
        have := stands.length_pos
        simp only [List.length_append, List.length_cons] at *
        omega
      rw [whole, tokensFrom_stands stands] at h
      match piece, room with
      | .blank d, room =>
        obtain ⟨pieces, cut, rfl, few, rfl⟩ := ih short h
        exact ⟨.blank d :: pieces, ⟨by simpa using stands, cut⟩, whole.symm, few, by simp [whole, Piece.text]⟩
      | .comment body, room =>
        obtain ⟨pieces, cut, rfl, few, rfl⟩ := ih short h
        exact ⟨.comment body :: pieces, ⟨by simpa using stands, cut⟩, whole.symm, few,
          by simp [whole, Piece.text, Position.after_append]⟩
      | .word kind body, room + 1 =>
        obtain ⟨pieces, cut, rfl, few, rfl⟩ := ih short h
        exact ⟨.word kind body :: pieces, ⟨by simpa using stands, cut⟩, whole.symm, Nat.succ_le_succ few,
          by simp [whole, Piece.text, Position.after_append]⟩

/-- **The scanner finds a cut** if there is room for its tokens. -/
theorem tokensFrom_of_isCut {pieces : List Piece} (cut : IsCut before pieces [])
    (enough : (written pieces).length ≤ fuel) (few : (placed position pieces).length ≤ room) :
    tokensFrom limits fuel ⟨before, position, written pieces⟩ room found =
      .ok (found.reverse ++ placed position pieces ++ [⟨.eof, [], position.after (written pieces)⟩]) := by
  induction pieces generalizing fuel before position room found with
  | nil => cases fuel <;> simp [tokensFrom]
  | cons piece pieces ih =>
    obtain ⟨stands, cut⟩ := cut
    rw [List.append_nil] at stands
    have pos := stands.length_pos
    rw [written_cons, List.length_append] at enough
    obtain ⟨fuel, rfl⟩ := Nat.exists_eq_succ_of_ne_zero (show fuel ≠ 0 by omega)
    rw [written_cons, tokensFrom_stands stands]
    match piece, room with
    | .blank d, room => simpa [Piece.text] using ih cut (by omega) few
    | .comment body, room => simpa [Piece.text, Position.after_append] using ih cut (by omega) few
    | .word kind body, room + 1 =>
      have enough : (written pieces).length ≤ fuel := by omega
      refine (ih cut enough (Nat.le_of_succ_le_succ few)).trans ?_
      simp [Piece.text, Position.after_append]

/-- Without room for its tokens the scanner reports the ceiling. -/
theorem tokensFrom_of_full {pieces : List Piece} (cut : IsCut before pieces [])
    (enough : (written pieces).length ≤ fuel) (many : room < (placed position pieces).length) :
    ∃ place, tokensFrom limits fuel ⟨before, position, written pieces⟩ room found =
      .error (.ceiling .tokenCount (limits.maxTokens + 1) limits.maxTokens place) := by
  induction pieces generalizing fuel before position room found with
  | nil => cases many
  | cons piece pieces ih =>
    obtain ⟨stands, cut⟩ := cut
    rw [List.append_nil] at stands
    have pos := stands.length_pos
    rw [written_cons, List.length_append] at enough
    obtain ⟨fuel, rfl⟩ := Nat.exists_eq_succ_of_ne_zero (show fuel ≠ 0 by omega)
    rw [written_cons, tokensFrom_stands stands]
    match piece, room with
    | .blank d, room => exact ih cut (by omega) many
    | .comment body, room => exact ih cut (by omega) many
    | .word kind body, 0 => exact ⟨position, rfl⟩
    | .word kind body, room + 1 => exact ih cut (by omega) (Nat.lt_of_succ_lt_succ many)

end Scan

/-! ## Whole texts -/

/-- **The tokens of a text** are those of the pieces into which it is cut, and the one that ends it. -/
theorem tokenize_eq_ok {limits : Limits} {text : Text} {tokens : List Token} :
    tokenize limits text = .ok tokens ↔
      text.length ≤ limits.maxInputLength ∧ ∃ pieces, IsCut none pieces [] ∧ written pieces = text ∧
        (placed .start pieces).length ≤ limits.maxTokens ∧
        tokens = placed .start pieces ++ [⟨.eof, [], Position.start.after text⟩] := by
  unfold tokenize
  constructor
  · intro h
    split at h
    · cases h
    · next short =>
      exact ⟨Nat.le_of_not_lt short, isCut_of_tokensFrom (Nat.le_refl _) h⟩
  · rintro ⟨short, pieces, cut, rfl, few, rfl⟩
    rw [if_neg (Nat.not_lt.mpr short)]
    exact tokensFrom_of_isCut cut (Nat.le_refl _) few

/-- **A text with a cut** has tokens, unless it reaches a ceiling. -/
theorem tokenize_of_isCut {limits : Limits} {pieces : List Piece} (cut : IsCut none pieces [])
    (free : ∀ reached value maximum position,
      tokenize limits (written pieces) ≠ .error (.ceiling reached value maximum position)) :
    tokenize limits (written pieces) =
      .ok (placed .start pieces ++ [⟨.eof, [], Position.start.after (written pieces)⟩]) := by
  have short : (written pieces).length ≤ limits.maxInputLength := by
    by_contra long
    exact free _ _ _ _ (if_pos (Nat.not_le.mp long))
  have few : (placed .start pieces).length ≤ limits.maxTokens := by
    by_contra many
    obtain ⟨place, full⟩ := tokensFrom_of_full cut (Nat.le_refl _) (Nat.not_le.mp many)
    exact free _ _ _ _ ((if_neg (Nat.not_lt.mpr short)).trans full)
  exact tokenize_eq_ok.mpr ⟨short, pieces, cut, rfl, few, rfl⟩

end QuerySignature
