import QuerySignature.Proofs.Signature.Blocks
import QuerySignature.Proofs.Spaced.Words
import QuerySignature.Proofs.Token.Relaid
import QuerySignature.Proofs.Token.Segment

/-!
# Proofs/Spaced/Cut — the tokens of an expression, cut out of its text

The text of an expression is its tokens with single spaces between them, so in a filter of its own it is cut into these
tokens as they are between spaces (`exists_filterPieces`).  A truth value that is a bare word in its text has a character
in front that joins it (`Scan.joined_of_isTruth`); so where it is called like a function, no keyword, variable or symbol
stands in front (`calls_of_isCut`).
-/

namespace QuerySignature

open Piece Lexeme Scan

/-! ## Words between spaces -/

/-- The words of tokens as they are between spaces, with spaces between them. -/
def Token.pieces (tokens : List Token) : List Piece :=
  (tokens.map fun token => Piece.word token.apart.kind token.text).intersperse (.blank ' ')

theorem Token.pieces_cons_cons (first second : Token) (rest : List Token) :
    pieces (first :: second :: rest) =
      .word first.apart.kind first.text :: .blank ' ' :: pieces (second :: rest) := rfl

/-- **The words are the text of the expression.** -/
theorem written_pieces (tokens : List Token) : written (Token.pieces tokens) = Token.spaced tokens := by
  induction tokens with
  | nil => rfl
  | cons first others ih =>
    cases others with
    | nil => exact (List.append_nil first.text).trans (Text.joined_singleton _ _).symm
    | cons second rest =>
      rw [Token.pieces_cons_cons, written_cons, written_cons, ih]
      change _ = Text.joined [' '] (first.text :: second.text :: rest.map Token.text)
      rw [Text.joined_cons_cons, List.append_assoc]
      rfl

/-- **The words are cut out of it.** -/
theorem isCut_pieces {tokens : List Token} {before : Option Char}
    (words : ∀ token ∈ tokens, token.Found ∧ ¬token.Splits) (free : before.any joinsWord = false) :
    IsCut before (Token.pieces tokens) [')'] := by
  have stands {token : Token} {before : Option Char} {y : Text} (word : token.Found ∧ ¬token.Splits) (gap : Gap y)
      (free : before.any joinsWord = false) : (Piece.word token.apart.kind token.text).Stands before y :=
    ⟨word.1.choose_spec.choose_spec.1, lexeme?_apart word.1 word.2 gap free⟩
  match tokens with
  | [] => trivial
  | [token] => exact ⟨stands (words token (.head _)) (.inr rfl) free, trivial⟩
  | first :: second :: rest =>
    rw [List.forall_mem_cons] at words
    rw [Token.pieces_cons_cons]
    exact ⟨stands words.1 (.inl ⟨_, rfl⟩) free, rfl, isCut_pieces words.2 rfl⟩

/-- Their tokens are those of the expression, elsewhere and as they are between spaces. -/
theorem exists_placed_pieces (tokens : List Token) (position : Position) :
    ∃ tokens', List.Forall₂ Token.Moved tokens tokens' ∧
      placed position (Token.pieces tokens) = tokens'.map Token.apart := by
  have placedAt (token : Token) (position : Position) : ∃ token', token.Moved token' ∧
      (⟨token.apart.kind, token.text, position⟩ : Token) = token'.apart := by
    refine ⟨⟨token.kind, token.text, position⟩, ⟨rfl, rfl⟩, ?_⟩
    unfold Token.apart
    change _ = if token.isTruth then _ else _
    split <;> rfl
  induction tokens generalizing position with
  | nil => exact ⟨[], .nil, rfl⟩
  | cons first others ih =>
    obtain ⟨first', moved, same⟩ := placedAt first position
    cases others with
    | nil => exact ⟨[first'], .cons moved .nil, congrArg (· :: []) same⟩
    | cons second rest =>
      obtain ⟨others, moved', same'⟩ := ih ((position.after first.text).next ' ')
      refine ⟨first' :: others, .cons moved moved', ?_⟩
      rw [Token.pieces_cons_cons, placed_word, placed_blank, same, same']
      rfl

/-! ## A filter of its own -/

/-- **The filter with the expression** that has the text. -/
def filterText (text : Text) : Text :=
  "FILTER (".toList ++ text ++ [')']

/-- **The text of a filter is cut into** its keyword, a bracket, the words of its expression and a bracket. -/
theorem exists_filterPieces {tokens : List Token} (words : ∀ token ∈ tokens, token.Found ∧ ¬token.Splits) :
    ∃ pieces filter opening closing tokens', IsCut none pieces [] ∧
      written pieces = filterText (Token.spaced tokens) ∧
      placed .start pieces = filter :: opening :: (tokens'.map Token.apart ++ [closing]) ∧
      List.Forall₂ Token.Moved tokens tokens' ∧ filter.spells ["FILTER"] = true ∧ opening.isSymbol ["("] = true ∧
      closing.isSymbol [")"] = true := by
  let opened := (Position.start.after "FILTER".toList).next ' '
  let inner := opened.after ['(']
  obtain ⟨tokens', moved, placed_⟩ := exists_placed_pieces tokens inner
  refine ⟨.word .keyword "FILTER".toList :: .blank ' ' :: .word .punctuation ['('] :: (Token.pieces tokens ++
    [.word .punctuation [')']]), ⟨.keyword, "FILTER".toList, .start⟩, ⟨.punctuation, ['('], opened⟩,
    ⟨.punctuation, [')'], inner.after (written (Token.pieces tokens))⟩, tokens',
    ⟨⟨rfl, rfl⟩, rfl, ⟨rfl, rfl⟩, ?_⟩, ?_, ?_, moved, rfl, rfl, rfl⟩
  · exact isCut_append.mpr ⟨isCut_pieces words rfl, ⟨rfl, rfl⟩, trivial⟩
  · rw [written_cons, written_cons, written_cons, written_append, written_pieces]
    rfl
  · rw [placed_word, placed_blank, placed_word, placed_append, placed_]
    rfl

/-! ## Truth values that are bare words -/

variable {before : Option Char} {text rest : Text}

/-- **A truth value that is a bare word in its text** is joined to the character in front, or to the one behind. -/
theorem Scan.joined_of_isTruth {token : Token} (truth : token.isTruth = true)
    (h : lexeme? before (token.text ++ rest) = some (.token token.kind, token.text.length)) :
    before.any joinsWord = true ∨ rest.head?.any joinsWord = true := by
  by_contra free
  rw [not_or, Bool.not_eq_true, Bool.not_eq_true] at free
  have alone : truthValue none (token.text ++ []) = some token.text.length := by
    rw [List.append_nil]
    exact token.isTruth_text truth
  have here := truthValue_alone free.2 free.1 alone
  rw [Token.isTruth_kind truth] at h
  obtain ⟨c, t, whole⟩ := List.exists_cons_of_length_pos (truthValue_extent alone).1
  rw [whole, List.cons_append] at h here
  rw [lexeme?_truthValue here (prefixedName_eq_none h nofun)] at h
  cases h

/-- Pieces that give no token are white space and comments, so they start with no character that joins a word. -/
theorem Piece.head?_of_placed {pieces : List Piece} {position : Position} (cut : IsCut before pieces rest)
    (none_ : placed position pieces = []) (some_ : pieces ≠ []) : (written pieces ++ rest).head?.any joinsWord = false := by
  obtain ⟨piece, pieces, rfl⟩ := List.exists_cons_of_ne_nil some_
  have stands := cut.1
  cases piece with
  | word => cases none_
  | blank c => exact Text.not_joinsWord_of_blank (by simpa [Stands, class?, Piece.text] using stands)
  | comment text =>
    obtain ⟨c, body, rfl⟩ := List.exists_cons_of_length_pos stands.length_pos
    have found := lexeme?_comment stands.2
    rw [Piece.text, List.cons_append, comment_cons] at found
    split at found
    · next mark =>
      subst mark
      rfl
    · cases found

/-- In front of a word they end with white space. -/
theorem Piece.lastOr_of_placed {pieces : List Piece} {position : Position} {c : Char} (cut : IsCut before pieces (c :: rest))
    (none_ : placed position pieces = []) (some_ : pieces ≠ []) (dark : Text.isBlank c = false) :
    (lastOr before (written pieces)).any joinsWord = false := by
  obtain ⟨front, piece, rfl⟩ := (List.eq_nil_or_concat' pieces).resolve_left some_
  obtain ⟨-, stands, -⟩ := isCut_append.mp cut
  rw [placed_append, List.append_eq_nil_iff] at none_
  rw [written_append, lastOr_append]
  cases piece with
  | word => cases none_.2
  | blank d => exact Text.not_joinsWord_of_blank (by simpa [Stands, class?, Piece.text] using stands)
  | comment text =>
    obtain rfl : c = '\n' := beq_iff_eq.mp stands.line
    cases dark

/-! ## Calls -/

/-- The token is a keyword, a variable or a symbol. -/
def Token.isPlain (token : Token) : Bool :=
  token.kind = .keyword || token.kind = .var || token.kind = .punctuation

/-- **Behind a keyword, a variable or a symbol no truth value is called** like a function. -/
def Calls (tokens : List Token) : Prop :=
  ∀ ⦃u t v : Token⦄, [u, t, v] <:+: tokens → u.isPlain = true → t.isTruth = true → v.isSymbol ["("] = false

theorem Calls.mono {tokens inner : List Token} (h : Calls tokens) (inside : inner <:+: tokens) : Calls inner :=
  fun _ _ _ member => h (member.trans inside)

theorem Scan.isWord_of_keyword {c : Char} {s text : Text} {kind : Token.Kind} (start : text = c :: s) (is : kind = .keyword)
    (h : lexeme? before (text ++ rest) = some (.token kind, text.length)) : Text.isWord c = true := by
  subst start is
  have rule : bareWord (c :: (s ++ rest)) = some (c :: s).length := by simpa using lexeme?_cases h
  exact (Bool.and_eq_true_iff.mp (bareWord_eq_length rule).1).1

/-- **A keyword, a variable or a symbol that a word follows** ends with no character that joins it. -/
theorem Scan.lastOr_of_isPlain {token : Token} {c : Char} (plain : token.isPlain = true) (word : Text.isWord c = true)
    (h : lexeme? before (token.text ++ c :: rest) = some (.token token.kind, token.text.length)) :
    (lastOr before token.text).any joinsWord = false := by
  obtain ⟨d, text, whole⟩ := List.exists_cons_of_length_pos (lexeme?_extent h).1
  unfold Token.isPlain at plain
  simp only [Bool.or_eq_true, decide_eq_true_eq] at plain
  obtain (kind | kind) | kind := plain <;> rw [kind] at h
  · have rule : bareWord (token.text ++ c :: rest) = some token.text.length := by simpa using lexeme?_cases h
    rw [whole] at rule
    have ends := (bareWord_eq_length rule).2.2 c rfl
    rw [word] at ends
    cases ends
  · have rule : var (token.text ++ c :: rest) = some token.text.length := by simpa using lexeme?_cases h
    rw [whole] at rule
    have ends := (run_eq_length.mp (run?_eq_some.mp (var_eq_length rule).2).1).2 c rfl
    rw [word] at ends
    cases ends
  · have last : symbols.all fun mark => mark.getLast?.any fun c => !joinsWord c := rfl
    obtain ⟨d, found, free⟩ := (Option.any_eq_true _ _).mp (List.all_eq_true.mp last _ (mem_symbols h))
    rw [lastOr, found]
    exact (Bool.not_eq_true' _).mp free

/-- **So it is in every text.** -/
theorem calls_of_isCut {pieces : List Piece} {position : Position} (cut : IsCut before pieces rest) :
    Calls (placed position pieces) := by
  rintro u t v ⟨front, back, whole⟩ plain truth
  rw [List.append_assoc] at whole
  obtain ⟨first, others, rfl, -, -, behind⟩ := split_placed whole.symm
  obtain ⟨gap, others, rfl, none_, -, behind⟩ := split_placed (show _ = [] ++ _ :: _ from behind)
  obtain ⟨gap', others, rfl, noToken, -, -⟩ := split_placed (show _ = [] ++ _ :: _ from behind)
  obtain ⟨-, uStands, cut⟩ := isCut_append.mp cut
  obtain ⟨gapCut, tStands, cut⟩ := isCut_append.mp cut
  obtain ⟨gapCut', -, -⟩ := isCut_append.mp cut
  rw [Bool.eq_false_iff]
  intro calls
  obtain ⟨c, text, start⟩ : ∃ c text, t.text = c :: text := List.exists_cons_of_length_pos tStands.length_pos
  have word := isWord_of_keyword start (Token.isTruth_kind truth) tStands.2
  have starts : written (.word t.kind t.text :: (gap' ++ .word v.kind v.text :: others)) ++ rest =
      c :: (text ++ (written (gap' ++ .word v.kind v.text :: others) ++ rest)) := by
    rw [written_cons, List.append_assoc]
    exact congrArg (· ++ _) start
  rcases joined_of_isTruth truth tStands.2 with front | behind
  · by_cases none' : gap = []
    · subst none'
      have joined := uStands.2
      rw [List.nil_append, starts] at joined
      rw [written_nil, lastOr_nil] at front
      exact Bool.eq_false_iff.mp (lastOr_of_isPlain plain word joined) front
    · rw [starts] at gapCut
      have dark : Text.isBlank c = false :=
        Bool.eq_false_iff.mpr fun blank => Bool.eq_false_iff.mp (Text.not_isWord_of_blank blank) word
      exact Bool.eq_false_iff.mp (lastOr_of_placed gapCut none_ none' dark) front
  · rw [written_append, List.append_assoc] at behind
    by_cases none' : gap' = []
    · subst none'
      rw [written_nil, written_cons, Piece.text, text_of_isSymbol calls] at behind
      cases behind
    · exact Bool.eq_false_iff.mp (head?_of_placed gapCut' noToken none') behind

end QuerySignature
