import QuerySignature.Proofs.Reading.Groups
import QuerySignature.Proofs.Token.Layout
import QuerySignature.Proofs.Token.Segment

/-!
# Proofs/Signature/Blocks — where the blocks of a query stand

The blocks that `Query.blocks` finds in a query are the ones its reader has shown, each once and in order
(`blocks_of_read`).  They stand in the text one after the other, and each of them is read again from its
slice (`parse_blocks`).
-/

namespace QuerySignature

open Piece Reader

/-! ## The blocks that a reading shows -/

/-- **Every token is taken for itself**, and every block for itself. -/
def Likeness.same : Likeness where
  like t t' := t = t'
  ahead t t' := t = t'
  block _ b tokens b' tokens' := b = b' ∧ tokens = tokens' ∧ IsBlock tokens b
  lenient := False
  ahead_of_like := id
  alike {t _} same := same ▸ .refl t
  reads := And.right ∘ And.right
  writes := by
    rintro _ _ _ _ _ ⟨rfl, rfl, block⟩
    exact block
  vars stands := congrArg Values.vars stands.1.symm
  begins {_ _ tokens _ _} stands := by
    rw [← stands.2.1]
    cases tokens.head? with
    | none => exact .none
    | some => exact .some rfl

theorem respells_same {steps : List Step} (sound : ∀ step ∈ steps, step.Sound) :
    Respells .same steps (steps.flatMap Step.tokens) := by
  induction steps with
  | nil => exact .nil
  | cons step steps ih =>
    rw [List.forall_mem_cons] at sound
    cases step with
    | token t => exact .token rfl (ih sound.2)
    | block b tokens region => exact .block ⟨rfl, rfl, sound.1⟩ (ih sound.2)

/-- **A query that is read** is declarations and a body, to the end of the tokens. -/
theorem query_done {depth : Option Inside} {tokens rest : List Token} {query : Query}
    (h : (Reader.query depth).read tokens = .done query rest) :
    rest = [] ∧ ∃ declarations between pair, prologue.read tokens = .done declarations between ∧
      (body depth).read between = .done pair [] ∧ query = ⟨declarations ++ pair.2, pair.1⟩ := by
  obtain ⟨declarations, between, declared, afterPrologue⟩ := bind_done.mp h
  obtain ⟨pair, behind, bodyRead, afterBody⟩ := bind_done.mp afterPrologue
  obtain ⟨found, _, ahead, ending⟩ := bind_done.mp afterBody
  obtain ⟨rfl, rfl⟩ := Reading.done.inj ((peek_read behind).symm.trans ahead)
  cases behind with
  | nil =>
    obtain ⟨rfl, rfl⟩ := pure_done.mp ending
    exact ⟨rfl, declarations, between, pair, declared, bodyRead, rfl⟩
  | cons t behind => exact (refuse_done.mp ending).elim

/-- **The blocks of a query are those that its reader shows**, each once and in order. -/
theorem blocks_of_read {brackets : Nat} {tokens : List Token} {query : Query}
    (h : (Reader.query (inside brackets)).read tokens = .done query []) :
    query.blocks = shownBlocks ((Reader.query (inside brackets)).steps tokens) := by
  have hd : DepthTracks Likeness.same.lenient (inside brackets) (inside brackets) := inside_tracks (.inl rfl)
  obtain ⟨_, -, -, shown⟩ := (query_tracks hd).done h (respells_same ((Reader.query _).sound tokens)) .nil
  exact shown.symm

/-! ## Texts that are read -/

theorem beforeEnd_placed {pieces : List Piece} (cut : IsCut none pieces []) (stop : Position) :
    Token.beforeEnd (placed .start pieces ++ [⟨.eof, [], stop⟩]) = (placed .start pieces, stop) := by
  have words : ∀ token ∈ placed .start pieces, decide (token.kind ≠ .eof) = true := fun token member =>
    decide_eq_true (word_of_isCut cut member).1
  have none_ : (placed .start pieces).find? (fun token => decide (token.kind = .eof)) = none := by
    rw [List.find?_eq_none]
    intro token member
    simpa using words token member
  unfold Token.beforeEnd
  rw [List.takeWhile_append_of_pos words, List.find?_append, none_]
  simp

/-- **A text is read as a query** if it is cut within the ceilings and its tokens write the query. -/
theorem parse_eq_ok {limits : Limits} {text : Text} {query : Query} :
    parse limits text = .ok query ↔
      text.length ≤ limits.maxInputLength ∧ ∃ pieces, IsCut none pieces [] ∧ written pieces = text ∧
        (placed .start pieces).length ≤ limits.maxTokens ∧
        (Reader.query (inside limits.maxDepth)).read (placed .start pieces) = .done query [] := by
  constructor
  · intro h
    unfold parse at h
    split at h
    · cases h
    · next tokens tokenized =>
      obtain ⟨short, pieces, cut, whole, few, rfl⟩ := tokenize_eq_ok.mp tokenized
      refine ⟨short, pieces, cut, whole, few, ?_⟩
      rw [beforeEnd_placed cut] at h
      unfold Query.ofTokens at h
      dsimp only at h
      split at h
      · next read =>
        obtain ⟨rfl, -⟩ := query_done read
        rw [← Except.ok.inj h]
        exact read
      · cases h
  · rintro ⟨short, pieces, cut, whole, few, read⟩
    unfold parse
    rw [tokenize_eq_ok.mpr ⟨short, pieces, cut, whole, few, rfl⟩]
    dsimp only
    rw [beforeEnd_placed cut, Query.ofTokens]
    dsimp only
    rw [read]

/-! ## Where a block stands -/

/-- A block runs from its keyword to its brace. -/
theorem IsBlock.ends {tokens : List Token} {block : Values} (h : IsBlock tokens block) :
    ∃ first inner last, tokens = first :: (inner ++ [last]) ∧ first.spells ["VALUES"] = true ∧
      last.isSymbol ["\x7d"] = true ∧ block.span = ⟨first.position.offset, last.stop⟩ := by
  cases h with
  | @short keyword var opening closing tokens rows spells isVar opens sequence closes =>
    exact ⟨keyword, var :: opening :: tokens, closing, rfl, spells, closes, rfl⟩
  | @long keyword left right opening closing vars tokens rows spells isLeft areVars isRight opens sequence closes =>
    refine ⟨keyword, left :: (vars ++ right :: opening :: tokens), closing, ?_, spells, closes, rfl⟩
    simp

/-- A keyword that opens a block starts with `V` or `v`. -/
theorem text_of_values {token : Token} (h : token.spells ["VALUES"] = true) :
    token.kind = .keyword ∧ ∃ c rest, token.text = c :: rest ∧ (c = 'V' ∨ c = 'v') := by
  obtain ⟨word, spelt, member⟩ := (Option.any_eq_true _ _).mp h
  obtain rfl := List.mem_singleton.mp (List.contains_iff_mem.mp member)
  unfold Token.word? at spelt
  split at spelt
  · next kind =>
    refine ⟨kind, ?_⟩
    rw [Option.some.injEq] at spelt
    split at spelt
    · cases spelt
    · cases text : token.text with
      | nil =>
        rw [text] at spelt
        cases spelt
      | cons c rest =>
        have head := Text.head_of_upper (congrArg List.head? spelt)
        rw [text, List.head?_cons] at head
        exact ⟨c, rest, rfl, head.imp Option.some.inj Option.some.inj⟩
  · cases spelt

theorem text_of_isSymbol {token : Token} {symbol : String} (h : token.isSymbol [symbol] = true) :
    token.text = symbol.toList := by
  obtain ⟨text, is, member⟩ := (Option.any_eq_true _ _).mp h
  obtain rfl := List.mem_singleton.mp (List.contains_iff_mem.mp member)
  unfold Token.symbol? at is
  split at is
  · exact Option.some.inj is
  · cases is

/-- **A block runs from the first character of its pieces to the last.** -/
theorem IsBlock.span_placed {position : Position} {kind kind' : Token.Kind} {text text' : Text}
    {middle : List Piece} {block : Values}
    (h : IsBlock (placed position (.word kind text :: (middle ++ [.word kind' text']))) block) :
    block.span = ⟨position.offset,
      position.offset + (written (.word kind text :: (middle ++ [.word kind' text']))).length⟩ := by
  obtain ⟨first, inner, last, whole, -, -, span⟩ := h.ends
  rw [placed_word, placed_append, placed_word, placed_nil] at whole
  obtain ⟨rfl, behind⟩ := List.cons.inj whole
  obtain ⟨-, ends⟩ := List.append_inj' behind rfl
  obtain rfl := List.singleton_inj.mp ends
  rw [span, Token.stop]
  simp only [written_cons, written_append, written_nil, Piece.text, Position.after_offset, List.length_append,
    List.length_nil]
  push_cast
  congr 1
  omega

/-- **A block is a segment of its text**: pieces that are cut alone as they are there, and whose tokens write
it. -/
structure Segment (pieces : List Piece) (block : Values) (before segment after : List Piece) : Prop where
  whole : pieces = before ++ segment ++ after
  writes : IsBlock (placed (Position.start.after (written before)) segment) block
  spans : ∀ {position : Position} {block' : Values}, IsBlock (placed position segment) block' →
    block'.span = ⟨position.offset, position.offset + (written segment).length⟩
  keyword : ∃ c rest, written segment = c :: rest ∧ (c = 'V' ∨ c = 'v')
  cut : IsCut none pieces [] → IsCut none segment []

theorem segment_of_block {pieces : List Piece} {front tokens back : List Token} {block : Values}
    (h : placed .start pieces = front ++ tokens ++ back) (isBlock : IsBlock tokens block) :
    ∃ before segment after, Segment pieces block before segment after ∧ placed .start before = front := by
  obtain ⟨first, inner, last, rfl, spells, closes, -⟩ := isBlock.ends
  obtain ⟨kind, c, rest, text, letter⟩ := text_of_values spells
  have brace : last.text = ['\x7d'] := text_of_isSymbol closes
  have punctuation : last.kind = .punctuation := kind_of_isSymbol closes
  obtain ⟨before, middle, after, whole, fronts, tokens, -, -⟩ := segment_of_placed h
  refine ⟨before, _, after, ⟨whole, by rwa [tokens], IsBlock.span_placed, ?_, fun cut => ?_⟩, fronts⟩
  · rw [written_cons, Piece.text, text]
    exact ⟨c, _, rfl, letter⟩
  · rw [whole, isCut_append, isCut_append] at cut
    have inside := cut.1.2
    rw [text, brace, punctuation] at inside ⊢
    exact IsCut.segment (by rcases letter with rfl | rfl <;> decide) (by rcases letter with rfl | rfl <;> decide) inside

namespace Segment

variable {pieces before segment after : List Piece} {block : Values}

/-- The span of a block. -/
theorem span (h : Segment pieces block before segment after) :
    block.span = ⟨(written before).length, (written before).length + (written segment).length⟩ := by
  rw [h.spans h.writes, Position.start_after_offset]

/-- The characters of a block. -/
theorem slice (h : Segment pieces block before segment after) :
    block.span.slice (written pieces) = written segment := by
  rw [h.span, h.whole, written_append, written_append, Span.slice_mid]

/-- A block has characters, all of them in the text. -/
theorem within (h : Segment pieces block before segment after) :
    0 ≤ block.span.start ∧ block.span.start < block.span.stop ∧ block.span.stop ≤ (written pieces).length := by
  obtain ⟨c, rest, text, -⟩ := h.keyword
  rw [h.span, h.whole, written_append, written_append, text]
  simp only [List.length_append, List.length_cons]
  omega

end Segment

/-! ## The blocks of a text -/

/-- **The same token**, perhaps elsewhere. -/
structure Token.Moved (t t' : Token) : Prop where
  kind : t'.kind = t.kind
  text : t'.text = t.text

theorem Token.Moved.alike {t t' : Token} (h : t.Moved t') : t.Alike t' where
  kind := h.kind
  word := by rw [Token.word?, Token.word?, h.kind, h.text]
  text _ _ := h.text
  name _ := by rw [Token.name, Token.name, h.text]
  blank := by rw [h.text]

/-- The tokens of pieces do not depend on their place. -/
theorem placed_moved (position position' : Position) (pieces : List Piece) :
    List.Forall₂ Token.Moved (placed position pieces) (placed position' pieces) := by
  induction pieces generalizing position position' with
  | nil => exact .nil
  | cons piece pieces ih =>
    cases piece with
    | blank c => exact ih _ _
    | comment text => exact ih _ _
    | word kind text => exact .cons ⟨rfl, rfl⟩ (ih _ _)

/-- The tokens of pieces do not depend on their place, as readers see them. -/
theorem placed_alike (position position' : Position) (pieces : List Piece) :
    List.Forall₂ Token.Alike (placed position pieces) (placed position' pieces) :=
  (placed_moved position position' pieces).imp fun _ _ => Token.Moved.alike

/-- **Blocks that steps show stand one behind the other**, if the tokens of the steps do. -/
theorem shown_pairwise {steps : List Step} (sound : ∀ step ∈ steps, step.Sound)
    (ordered : (steps.flatMap Step.tokens).Pairwise fun a b =>
      a.position.offset < b.position.offset ∧ a.stop ≤ b.position.offset) :
    (shownBlocks steps).Pairwise fun a b => a.span.stop ≤ b.span.start := by
  have shown {step : Step} {block : Values} (member : step ∈ steps) (h : step.shown? = some block) :
      ∃ first ∈ step.tokens, ∃ last ∈ step.tokens, block.span = ⟨first.position.offset, last.stop⟩ := by
    cases step with
    | token => cases h
    | block written tokens region =>
      cases region with
      | some => cases h
      | none =>
        obtain rfl := Option.some.inj h
        obtain ⟨first, inner, last, rfl, -, -, span⟩ := (sound _ member : IsBlock tokens written).ends
        exact ⟨first, by simp, last, by simp, span⟩
  refine List.pairwise_filterMap.mpr ((List.pairwise_flatMap.mp ordered).2.imp_of_mem ?_)
  intro step step' member member' apart block shows block' shows'
  obtain ⟨_, _, last, lastIn, span⟩ := shown member shows
  obtain ⟨first, firstIn, _, _, span'⟩ := shown member' shows'
  rw [span, span']
  exact (apart last lastIn first firstIn).2

/-- **A block that steps show is a segment** of the pieces of their tokens. -/
theorem segment_of_shown {pieces : List Piece} {steps : List Step} {block : Values}
    (sound : ∀ step ∈ steps, step.Sound) (tokens : placed .start pieces = steps.flatMap Step.tokens)
    (h : block ∈ shownBlocks steps) : ∃ before segment after, Segment pieces block before segment after := by
  obtain ⟨step, member, shows⟩ := List.mem_filterMap.mp h
  obtain ⟨front, back, rfl⟩ := List.append_of_mem member
  rw [List.flatMap_append, List.flatMap_cons, ← List.append_assoc] at tokens
  cases step with
  | token => cases shows
  | block written taken region =>
    cases region with
    | some => cases shows
    | none =>
      obtain rfl := Option.some.inj shows
      obtain ⟨before, segment, after, found, -⟩ := segment_of_block tokens (sound _ member)
      exact ⟨before, segment, after, found⟩

/-- **The block is read again from its slice**: alone it has tokens, they are all of one block, and this one
has its variables and its rows. -/
def Values.ReadsBack (limits : Limits) (text : Text) (block : Values) : Prop :=
  ∃ tokens, tokenize limits (block.span.slice text) = .ok tokens ∧
    Reader.values.read (Token.beforeEnd tokens).1 =
      .done ⟨block.vars, block.rows, ⟨0, (block.span.slice text).length⟩⟩ []

theorem Segment.readsBack {limits : Limits} {pieces before segment after : List Piece} {block : Values}
    (h : Segment pieces block before segment after) (cut : IsCut none pieces [])
    (short : (written pieces).length ≤ limits.maxInputLength)
    (few : (placed .start pieces).length ≤ limits.maxTokens) : block.ReadsBack limits (written pieces) := by
  have alone := h.cut cut
  obtain ⟨span, writes⟩ := h.writes.alike (placed_alike _ .start segment)
  have spans : span = ⟨0, (written segment).length⟩ := by
    have spans := h.spans writes
    rwa [Position.start_offset, Int.zero_add] at spans
  refine ⟨placed .start segment ++ [⟨.eof, [], Position.start.after (written segment)⟩], ?_, ?_⟩
  · rw [h.slice]
    refine tokenize_eq_ok.mpr ⟨?_, segment, alone, rfl, ?_, rfl⟩
    · rw [h.whole, written_append, written_append, List.length_append, List.length_append] at short
      omega
    · rw [h.whole, placed_append, placed_append, List.length_append, List.length_append] at few
      rw [(placed_alike .start (Position.start.after (written before)) segment).length_eq]
      omega
  · rw [beforeEnd_placed alone, h.slice, ← spans]
    have back : valuesContent.read (placed .start segment ++ []) = _ := valuesContent_back writes
    rwa [List.append_nil] at back

/-- **Where the blocks of a query stand** in its text. -/
structure Query.BlocksStand (limits : Limits) (text : Text) (query : Query) : Prop where
  /-- They are those that the reader of its tokens shows, each once and in order. -/
  shown : ∃ tokens, tokenize limits text = .ok tokens ∧
    query.blocks = shownBlocks ((Reader.query (inside limits.maxDepth)).steps (Token.beforeEnd tokens).1)
  within : ∀ block ∈ query.blocks,
    0 ≤ block.span.start ∧ block.span.start < block.span.stop ∧ block.span.stop ≤ text.length
  /-- They follow each other and do not overlap. -/
  ordered : query.blocks.Pairwise fun a b => a.span.stop ≤ b.span.start
  readBack : ∀ block ∈ query.blocks, block.ReadsBack limits text

/-- **The blocks of a text that parses** are those that its reader shows; they stand in the text one behind the
other, and each is read again from its slice. -/
theorem parse_blocks {limits : Limits} {text : Text} {query : Query} (h : parse limits text = .ok query) :
    query.BlocksStand limits text := by
  obtain ⟨short, pieces, cut, rfl, few, read⟩ := parse_eq_ok.mp h
  have shown := blocks_of_read read
  have sound := (Reader.query (inside limits.maxDepth)).sound (placed .start pieces)
  have tokens := (Reader.query (inside limits.maxDepth)).conserves (placed .start pieces)
  rw [read, Reading.rest, List.append_nil] at tokens
  refine ⟨⟨_, tokenize_eq_ok.mpr ⟨short, pieces, cut, rfl, few, rfl⟩, ?_⟩, ?_, ?_, ?_⟩
  · rw [beforeEnd_placed cut, shown]
  · intro block member
    obtain ⟨before, segment, after, found⟩ := segment_of_shown sound tokens.symm (shown ▸ member)
    exact found.within
  · rw [shown]
    refine shown_pairwise sound ?_
    rw [tokens]
    exact placed_pairwise .start cut
  · intro block member
    obtain ⟨before, segment, after, found⟩ := segment_of_shown sound tokens.symm (shown ▸ member)
    exact found.readsBack cut short few

/-- A text with a block in the group, one in a test there, and one in a test behind the group. -/
def threeBlocks : Text :=
  ("ASK \x7b VALUES ?x \x7b UNDEF \x7d FILTER EXISTS \x7b VALUES ?y \x7b 'a' \x7d \x7d \x7d " ++
    "HAVING EXISTS \x7b VALUES ?z \x7b UNDEF \x7d \x7d").toList

/-- The blocks in the group are shown, and the one in the test behind it is not. -/
theorem parse_blocks_ask :
    ∃ query, parse .standard threeBlocks = .ok query ∧
      query.blocks = [⟨["x".toList], [[.undef]], ⟨6, 25⟩⟩,
        ⟨["y".toList], [[.literal ⟨"'a'".toList, ['a'.toNat], none, none⟩]], ⟨42, 59⟩⟩] ∧
      query.BlocksStand .standard threeBlocks := by
  have shown : (parse .standard threeBlocks).toOption.map Query.blocks = some [⟨["x".toList], [[.undef]], ⟨6, 25⟩⟩,
      ⟨["y".toList], [[.literal ⟨"'a'".toList, ['a'.toNat], none, none⟩]], ⟨42, 59⟩⟩] := by
    decide +kernel
  cases parsed : parse .standard threeBlocks with
  | error failure =>
    rw [parsed] at shown
    cases shown
  | ok query =>
    rw [parsed] at shown
    exact ⟨query, rfl, Option.some.inj shown, parse_blocks parsed⟩

end QuerySignature
