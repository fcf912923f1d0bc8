import QuerySignature.Proofs.Token.Cut
import QuerySignature.Proofs.Token.Place

/-!
# Proofs/Token/Layout — every character is a token's or layout

The tokens of a text are slices of it in order, and what stands between them is white space and comments, so
nothing of the text is lost.  `LaidOut` collects what holds between a text and its tokens;
`tokenize_laidOut` shows it of every text that has tokens.
-/

namespace QuerySignature

open Piece

/-- **Layout** in front of a text: white space and comments.  A comment holds no line feed, and behind it one
stands or everything ends. -/
inductive IsLayout (rest : Text) : Text → Prop where
  | nil : IsLayout rest []
  | blank {c : Char} {text : Text} : Text.isBlank c = true → IsLayout rest text → IsLayout rest (c :: text)
  | comment {body text : Text} : '\n' ∉ body → (∀ c, (text ++ rest).head? = some c → c = '\n') →
      IsLayout rest text → IsLayout rest ('#' :: (body ++ text))

/-- The stretches in front of tokens, the first from an offset on. -/
def gaps : (start : Int) → List Token → List Span
  | _, [] => []
  | start, token :: tokens => ⟨start, token.position.offset⟩ :: gaps token.stop tokens

/-- The stretches and the tokens behind them, in turn. -/
def interleaved (text : Text) (stretches : List Span) (tokens : List Token) : Text :=
  (List.zipWith (fun stretch token => stretch.slice text ++ token.text) stretches tokens).flatten

/-- **The tokens tile the text**: words and the token that ends it. -/
structure LaidOut (text : Text) (words : List Token) (ending : Token) : Prop where
  /-- The last token is the end of the text, and no other is. -/
  ends : ending.kind = .eof ∧ ending.text = [] ∧ ending.position.offset = text.length
  words_kind : ∀ word ∈ words, word.kind ≠ .eof
  /-- Every other token is a slice with characters in it. -/
  sliced : ∀ word ∈ words, word.text ≠ [] ∧ 0 ≤ word.position.offset ∧ word.stop ≤ text.length ∧
    word.span.slice text = word.text
  /-- They follow each other and do not overlap. -/
  ordered : (words ++ [ending]).Pairwise fun a b =>
    a.position.offset < b.position.offset ∧ a.stop ≤ b.position.offset
  /-- The stretches between them are layout. -/
  spaced : ∀ gap ∈ gaps 0 (words ++ [ending]),
    IsLayout (text.drop gap.stop.toNat) (gap.slice text)
  /-- Nothing is lost. -/
  rebuilt : interleaved text (gaps 0 (words ++ [ending])) (words ++ [ending]) = text
  /-- Lines are counted by line feeds, columns from the start of the line. -/
  placed : ∀ token ∈ words ++ [ending],
    token.position.line - 1 = (text.take token.position.offset.toNat).count '\n' ∧
    Position.IsLineStart text (token.position.offset - (token.position.column - 1)) token.position.offset
  located : ∀ a ∈ words ++ [ending], ∀ b ∈ words ++ [ending], a.position.line = b.position.line →
    a.position.column = b.position.column → a.position.offset = b.position.offset

/-! ## Stretches -/

theorem IsLayout.append {first second rest : Text} (h : IsLayout (second ++ rest) first)
    (h' : IsLayout rest second) : IsLayout rest (first ++ second) := by
  induction h with
  | nil => exact h'
  | blank light _ ih => exact .blank light ih
  | comment free ended _ ih =>
    rw [List.cons_append, List.append_assoc]
    refine .comment free ?_ ih
    rwa [List.append_assoc]

/-- A comment that the scanner finds is layout. -/
theorem isLayout_of_stands {before : Option Char} {text rest : Text}
    (h : (Piece.comment text).Stands before rest) : IsLayout rest text := by
  obtain ⟨c, body, rfl⟩ := List.exists_cons_of_length_pos h.length_pos
  have found := Scan.lexeme?_comment h.2
  rw [Piece.text, List.cons_append] at found
  unfold Lexeme.comment at found
  split at found
  · next whole =>
    obtain ⟨rfl, rfl⟩ := List.cons.inj whole
    have length := Option.some.inj found
    rw [List.length_cons, Nat.add_comm, Nat.succ_inj, Lexeme.run_eq_length] at length
    obtain ⟨free, ended⟩ := length
    rw [← List.append_nil body]
    refine .comment (fun inside => ?_) (fun c first => ?_) .nil
    · simpa using List.all_eq_true.mp free _ inside
    · simpa using ended c first
  · cases found

/-- Every stretch in front of the tokens is layout, and with the tokens they rebuild a text. -/
def Spaced (text : Text) (start : Int) (tokens : List Token) (rest : Text) : Prop :=
  (∀ gap ∈ gaps start tokens, IsLayout (text.drop gap.stop.toNat) (gap.slice text)) ∧
    interleaved text (gaps start tokens) tokens = rest

theorem Spaced.cons {text passed layout rest behind : Text} {token : Token} {tokens : List Token}
    (light : IsLayout rest layout) (whole : text = passed ++ layout ++ rest)
    (at_ : token.position.offset = passed.length + layout.length) (h : Spaced text token.stop tokens behind) :
    Spaced text passed.length (token :: tokens) (layout ++ (token.text ++ behind)) := by
  have stretch := Span.slice_mid passed layout rest
  have stop : ((passed.length : Int) + layout.length).toNat = (passed ++ layout).length := by
    rw [List.length_append]
    omega
  rw [← at_, ← whole] at stretch
  refine ⟨?_, ?_⟩
  · intro gap member
    rcases List.mem_cons.mp member with rfl | member
    · rw [stretch, at_, stop, whole, List.drop_left]
      exact light
    · exact h.1 gap member
  · rw [gaps, interleaved, List.zipWith_cons_cons, List.flatten_cons, stretch, List.append_assoc]
    exact congrArg (fun tail => layout ++ (token.text ++ tail)) h.2

/-- **Between the tokens of a cut stands layout, and nothing is lost.**  The first stretch starts with the
layout that has been passed since the last token. -/
theorem spaced_of_isCut {pieces : List Piece} {before : Option Char} {text : Text} {tokens : List Token}
    (passed layout : Text) (position : Position) (cut : IsCut before pieces [])
    (light : IsLayout (written pieces) layout) (whole : text = passed ++ layout ++ written pieces)
    (at_ : position.offset = passed.length + layout.length)
    (found : tokens = placed position pieces ++ [⟨.eof, [], position.after (written pieces)⟩]) :
    Spaced text passed.length tokens (layout ++ written pieces) := by
  induction pieces generalizing before position passed layout tokens with
  | nil =>
    obtain rfl := found
    exact Spaced.cons light whole at_ ⟨fun _ none => (List.not_mem_nil none).elim, rfl⟩
  | cons piece pieces ih =>
    obtain ⟨stands, cut⟩ := cut
    rw [List.append_nil] at stands
    have further (blank : IsLayout (written pieces) piece.text)
        (none : placed position (piece :: pieces) = placed (position.after piece.text) pieces) :
        Spaced text passed.length tokens (layout ++ written (piece :: pieces)) := by
      rw [none, written_cons, Position.after_append] at found
      rw [written_cons, ← List.append_assoc]
      refine ih passed (layout ++ piece.text) (position.after piece.text) cut (light.append blank) ?_ ?_ found
      · rw [whole, written_cons, List.append_assoc, List.append_assoc, List.append_assoc]
      · rw [Position.after_offset, at_, List.length_append]
        push_cast
        omega
    cases piece with
    | blank c => exact further (.blank (by simpa [Stands, class?, Piece.text] using stands) .nil) rfl
    | comment body => exact further (isLayout_of_stands stands) rfl
    | word kind body =>
      obtain rfl := found
      refine Spaced.cons light whole at_ ?_
      have stop : (position.offset + body.length : Int) = (passed ++ layout ++ body).length := by
        rw [at_, List.length_append, List.length_append]
        push_cast
        omega
      rw [Token.stop, stop]
      refine ih (passed ++ layout ++ body) [] (position.after body) cut .nil ?_ ?_ ?_
      · simp only [whole, written_cons, Piece.text, List.append_nil, List.append_assoc]
      · rw [Position.after_offset, stop, List.length_nil, Int.natCast_zero, Int.add_zero]
      · rw [written_cons, Piece.text, Position.after_append]
        rfl

/-! ## Places -/

/-- **Each token of a cut is a word of it**, placed behind the pieces in front. -/
theorem mem_placed {pieces : List Piece} {position : Position} {token : Token}
    (h : token ∈ placed position pieces) :
    ∃ front kind text back, pieces = front ++ .word kind text :: back ∧
      token = ⟨kind, text, position.after (written front)⟩ := by
  induction pieces generalizing position with
  | nil => cases h
  | cons piece pieces ih =>
    have further (h : token ∈ placed (position.after piece.text) pieces) :
        ∃ front kind text back, piece :: pieces = front ++ .word kind text :: back ∧
          token = ⟨kind, text, position.after (written front)⟩ := by
      obtain ⟨front, kind, text, back, rfl, rfl⟩ := ih h
      refine ⟨piece :: front, kind, text, back, rfl, ?_⟩
      rw [written_cons, Position.after_append]
    cases piece with
    | blank c => exact further h
    | comment text => exact further h
    | word kind text =>
      rcases List.mem_cons.mp h with rfl | h
      · exact ⟨[], kind, text, pieces, rfl, rfl⟩
      · exact further h

/-- The tokens of a cut follow each other. -/
theorem placed_pairwise {pieces : List Piece} {before : Option Char} {rest : Text} (position : Position)
    (cut : IsCut before pieces rest) :
    (placed position pieces).Pairwise fun a b =>
      a.position.offset < b.position.offset ∧ a.stop ≤ b.position.offset := by
  induction pieces generalizing before position with
  | nil => exact .nil
  | cons piece pieces ih =>
    obtain ⟨stands, cut⟩ := cut
    have others := ih (position.after piece.text) cut
    cases piece with
    | blank c => exact others
    | comment text => exact others
    | word kind text =>
      refine List.pairwise_cons.mpr ⟨fun token member => ?_, others⟩
      obtain ⟨front, _, _, _, rfl, rfl⟩ := mem_placed member
      have := stands.length_pos
      simp only [Position.after_offset, Token.stop, Piece.text] at *
      omega

/-- What holds of the words of a cut of a whole text. -/
theorem word_of_isCut {pieces : List Piece} {token : Token} (cut : IsCut none pieces [])
    (h : token ∈ placed .start pieces) :
    token.kind ≠ .eof ∧ token.text ≠ [] ∧ ∃ passed rest, written pieces = passed ++ token.text ++ rest ∧
      token.position = Position.start.after passed := by
  obtain ⟨front, kind, text, back, rfl, rfl⟩ := mem_placed h
  obtain ⟨-, stands, -⟩ := isCut_append.mp cut
  refine ⟨Scan.lexeme?_kind stands.2, List.length_pos_iff.mp stands.length_pos, written front, written back,
    ?_, rfl⟩
  rw [written_append, written_cons, List.append_assoc]
  rfl

/-- **The tokens of a text tile it.** -/
theorem tokenize_laidOut {limits : Limits} {text : Text} {tokens : List Token}
    (h : tokenize limits text = .ok tokens) :
    ∃ words ending, tokens = words ++ [ending] ∧ LaidOut text words ending := by
  obtain ⟨-, pieces, cut, rfl, -, rfl⟩ := tokenize_eq_ok.mp h
  have spaced := spaced_of_isCut [] [] .start cut .nil rfl rfl rfl
  have place {token : Token} (member : token ∈ placed .start pieces ++
      [⟨.eof, [], Position.start.after (written pieces)⟩]) :
      ∃ passed rest, written pieces = passed ++ rest ∧ token.position = Position.start.after passed := by
    rcases List.mem_append.mp member with member | member
    · obtain ⟨-, -, passed, rest, whole, at_⟩ := word_of_isCut cut member
      exact ⟨passed, token.text ++ rest, whole.trans (List.append_assoc ..), at_⟩
    · obtain rfl := List.mem_singleton.mp member
      exact ⟨written pieces, [], (List.append_nil _).symm, rfl⟩
  refine ⟨_, _, rfl, ⟨rfl, rfl, Position.start_after_offset _⟩, fun word member => (word_of_isCut cut member).1,
    ?_, ?_, spaced.1, spaced.2, ?_, ?_⟩
  · intro word member
    obtain ⟨-, some, passed, rest, whole, at_⟩ := word_of_isCut cut member
    have offset : word.position.offset = passed.length := by rw [at_, Position.start_after_offset]
    refine ⟨some, ?_, ?_, ?_⟩
    · omega
    · rw [Token.stop, offset, whole]
      simp only [List.length_append]
      omega
    · rw [Token.span, Token.stop, offset, whole, Span.slice_mid]
  · refine List.pairwise_append.mpr ⟨placed_pairwise .start cut, List.pairwise_singleton .., ?_⟩
    intro word member last ending
    obtain rfl := List.mem_singleton.mp ending
    obtain ⟨-, some, passed, rest, whole, at_⟩ := word_of_isCut cut member
    have := List.length_pos_iff.mpr some
    rw [Token.stop, at_, Position.start_after_offset, Position.start_after_offset, whole]
    simp only [List.length_append]
    omega
  · intro token member
    obtain ⟨passed, rest, whole, at_⟩ := place member
    rw [at_, whole]
    refine ⟨?_, Position.isLineStart_after passed rest⟩
    rw [Position.start_after_offset, Int.toNat_natCast, List.take_left, Position.after_line, Position.start]
    dsimp only
    omega
  · intro a first b second line column
    obtain ⟨passed, rest, whole, at_⟩ := place first
    obtain ⟨passed', rest', whole', at_'⟩ := place second
    rw [at_, at_'] at line column ⊢
    exact Position.offset_unique whole whole' line column

/-- A test with a comment in it is tiled by its words. -/
theorem tokenize_laidOut_comment :
    ∃ tokens, tokenize .standard "ASK # \x7b\n\x7b\x7d".toList = .ok tokens ∧
      ∃ words ending, tokens = words ++ [ending] ∧ LaidOut "ASK # \x7b\n\x7b\x7d".toList words ending :=
  ⟨[⟨.keyword, "ASK".toList, ⟨1, 1, 0⟩⟩, ⟨.punctuation, ['\x7b'], ⟨2, 1, 8⟩⟩,
    ⟨.punctuation, ['\x7d'], ⟨2, 2, 9⟩⟩, ⟨.eof, [], ⟨2, 3, 10⟩⟩], rfl,
    tokenize_laidOut (show tokenize .standard _ = _ from rfl)⟩

end QuerySignature
