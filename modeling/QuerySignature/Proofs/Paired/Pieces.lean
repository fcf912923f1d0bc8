import QuerySignature.Proofs.Outcome.Sequence
import QuerySignature.Proofs.Paired.Rules
import QuerySignature.Reading.Group

/-!
# Proofs/Paired/Pieces — the pieces of an expression

What is scanned holds the tokens that were taken, and they pair up by number; of the tests among them it holds the groups,
one for each test that is in no group of another one (`Scanned.IsRead`).  This is kept when pieces are put one after the
other, so it holds of a whole expression (`expression_isRead`).  Whether a token starts a test is seen at the token behind
it, so it is said of the tokens with any others behind them.
-/

namespace QuerySignature

open Token (Balanced Leads nest tidy endsTested)
open Reader (isCloser)

/-! ## Tests that are read -/

/-- **A group that a test starts with**: it is read at its place, with the rest of the input behind, and ends with the brace
that closes its first one. -/
inductive Token.IsTest (most : Nat) (rest : List Token) : List Token → Group → Prop where
  | group {brackets : Nat} {opening closing : Token} {inner behind : List Token} {pattern : Group} : brackets ≤ most →
      opening.isSymbol ["\x7b"] = true → Balanced inner → closing.isSymbol ["\x7d"] = true →
      (Reader.group (Reader.inside brackets)).read (opening :: (inner ++ closing :: behind) ++ rest) =
        .done pattern (behind ++ rest) →
      IsTest most rest (opening :: (inner ++ closing :: behind)) pattern

/-- **The tokens that were scanned** are the ones that were taken; they pair up, and the groups are those of their tests.
Inside a round bracket they nest by kind if no brace stands loose. -/
structure Scanned.IsRead (most : Nat) (scanned : Scanned) (tokens rest : List Token) : Prop where
  whole : tokens = scanned.tokens ++ rest
  balanced : Balanced scanned.tokens
  tests {behind rest' : List Token} : rest = behind ++ rest' →
    ∃ places, Token.tests (scanned.tokens ++ behind) = places ++ Token.tests behind ∧
      List.Forall₂ (Token.IsTest most rest') places scanned.patterns
  nests {due : List Text} {tested : Bool} : (tested = true → tokens.head?.any (·.isSymbol ["\x7b"]) = false) →
    tidy ([')'] :: due) tested scanned.tokens = true →
      nest ([')'] :: due) scanned.tokens = some ([')'] :: due)
  /-- What ends with `EXISTS` ends in front of no brace. -/
  ends : endsTested false scanned.tokens = true → rest.head?.any (·.isSymbol ["\x7b"]) = false

variable {most more : Nat} {scanned : Scanned} {tokens between rest : List Token}

theorem Token.IsTest.mono {place : List Token} {pattern : Group} (h : Token.IsTest most rest place pattern)
    (le : most ≤ more) : Token.IsTest more rest place pattern := by
  cases h with
  | group low opens balanced closes read => exact .group (Nat.le_trans low le) opens balanced closes read

namespace Scanned.IsRead

theorem mono (h : scanned.IsRead most tokens rest) (le : most ≤ more) : scanned.IsRead more tokens rest where
  whole := h.whole
  balanced := h.balanced
  tests same := by
    obtain ⟨places, found, read⟩ := h.tests same
    exact ⟨places, found, read.imp fun _ _ test => test.mono le⟩
  nests := h.nests
  ends := h.ends

/-! ## Pieces -/

/-- **A token that is no bracket**, and no test starts with it. -/
theorem single {token : Token} (plain : token.isBracket = false)
    (alone : (token.spells ["EXISTS"] && rest.head?.any (·.isSymbol ["\x7b"])) = false) :
    IsRead most ⟨[token], []⟩ (token :: rest) rest where
  whole := rfl
  balanced := Token.balanced_singleton plain
  tests {behind rest'} same := by
    refine ⟨[], ?_, .nil⟩
    cases behind with
    | nil => rfl
    | cons next others =>
      subst same
      exact Token.tests_cons alone
  nests _ _ := Token.nest_frame (Token.nested_singleton plain) _
  ends tested := by
    rwa [show token.spells ["EXISTS"] = true from tested, Bool.true_and] at alone

/-- A symbol is not `EXISTS`. -/
theorem not_exists {symbol : Token} {symbols : List String} (is : symbol.isSymbol symbols = true) :
    symbol.spells ["EXISTS"] = false :=
  Reader.not_spells (by rw [Reader.kind_of_isSymbol is]; decide) _

/-- **A pair of brackets** around what was scanned. -/
theorem pair {opening closing : Token} (opens : opening.isSymbol ["(", "\x7b"] = true)
    (h : scanned.IsRead most tokens (closing :: rest)) (closes : isCloser closing = true) :
    IsRead most ⟨opening :: (scanned.tokens ++ [closing]), scanned.patterns⟩ (opening :: tokens) rest where
  whole := by
    rw [h.whole, List.cons_append, List.append_assoc]
    rfl
  balanced := h.balanced.pair opens closes
  tests {behind rest'} same := by
    have skip {symbol : Token} {symbols : List String} {others : List Token} (is : symbol.isSymbol symbols = true) :
        Token.tests (symbol :: others) = Token.tests others := by
      refine Token.tests_cons ?_
      rw [not_exists is, Bool.false_and]
    have ahead : closing :: rest = (closing :: behind) ++ rest' := congrArg (closing :: ·) same
    obtain ⟨places, found, read⟩ := h.tests ahead
    refine ⟨places, ?_, read⟩
    rw [List.cons_append, skip opens, List.append_assoc]
    exact found.trans (congrArg (places ++ ·) (skip closes))
  nests {due tested} before tidy := by
    have round : opening.isSymbol ["("] = true := by
      rw [Token.isSymbol_cons] at opens
      refine ((Bool.or_eq_true _ _).mp opens).resolve_right fun brace => ?_
      obtain ⟨rfl, -⟩ := Token.tested_of_brace tidy (Token.isSymbol_mono brace (by decide))
      rw [List.head?_cons, Option.any_some, brace] at before
      cases before rfl
    have inside := Token.tidy_tail tidy (Token.nest?_round round _)
    have inner := h.nests (fun tested => ?_) (Token.tidy_left inside)
    have last := Token.tidy_right inside inner
    have unround : closing.isSymbol [")"] = true := by
      rw [isCloser, Token.isSymbol_cons] at closes
      refine ((Bool.or_eq_true _ _).mp closes).resolve_right fun brace => ?_
      obtain ⟨-, opens⟩ := Token.tested_of_brace last (Token.isSymbol_mono brace (by decide))
      rw [Token.isSymbol_apart brace (by decide)] at opens
      cases opens
    · rw [Token.nest_cons, Token.nest?_round round, Option.bind_some, Token.nest_append, inner, Option.bind_some,
        Token.nest_cons, Token.nest?_unround unround]
      rfl
    · rw [not_exists opens] at tested
      cases tested
  ends tested := by
    have last : closing.spells ["EXISTS"] = true := by
      rwa [Token.endsTested, List.foldl_cons, List.foldl_append] at tested
    rw [not_exists closes] at last
    cases last

/-- **A test**, with the group that is read. -/
theorem test {brackets : Nat} {exists_ opening closing : Token} {inner : List Token} {pattern : Group}
    (low : brackets ≤ most) (is : exists_.spells ["EXISTS"] = true) (opens : opening.isSymbol ["\x7b"] = true)
    (balanced : Balanced inner) (leads : ∀ due, Leads false due due inner) (closes : closing.isSymbol ["\x7d"] = true)
    (read : (Reader.group (Reader.inside brackets)).read (opening :: (inner ++ closing :: rest)) = .done pattern rest) :
    IsRead most ⟨exists_ :: opening :: (inner ++ [closing]), [pattern]⟩ (exists_ :: opening :: (inner ++ closing :: rest))
      rest where
  whole := by
    rw [List.cons_append, List.cons_append, List.append_assoc]
    rfl
  balanced := by
    have first := Token.balanced_singleton (Token.isBracket_of_spells is)
    exact first.append (balanced.pair (Token.isSymbol_mono opens (by decide)) (Token.isSymbol_mono closes (by decide)))
  tests {behind rest'} same := by
    have starts : Token.startsTest exists_ opening = true := (Bool.and_eq_true _ _).mpr ⟨is, opens⟩
    refine ⟨[opening :: (inner ++ closing :: behind)], ?_, .cons (.group low opens balanced closes ?_) .nil⟩
    · rw [List.cons_append, List.cons_append, List.append_assoc]
      change Token.tests (exists_ :: opening :: (inner ++ closing :: behind)) = _
      rw [Token.tests_test starts, Token.testsFrom_group balanced (Token.isSymbol_mono closes (by decide))]
      rfl
    · rw [same] at read
      rw [List.cons_append, List.append_assoc]
      exact read
  nests {due _} _ tidy := by
    have group : Leads false ([')'] :: due) ([')'] :: due) (opening :: (inner ++ [closing])) :=
      .braced opens (leads _) closes
    have whole : Leads false ([')'] :: due) ([')'] :: due) (exists_ :: opening :: (inner ++ [closing])) :=
      group.cons (Token.nest?_plain (Token.isBracket_of_spells is) _) nofun
    exact whole.kind nofun tidy
  ends tested := by
    have last : closing.spells ["EXISTS"] = true := by
      rwa [Token.endsTested, List.foldl_cons, List.foldl_cons, List.foldl_append] at tested
    rw [not_exists closes] at last
    cases last

/-! ## Pieces one after the other -/

theorem nothing : IsRead most (concat []) tokens tokens where
  whole := rfl
  balanced := Token.balanced_nil
  tests _ := ⟨[], rfl, .nil⟩
  nests _ _ := rfl
  ends := nofun

theorem cons {piece : Scanned} {pieces : List Scanned} (h : piece.IsRead most tokens between)
    (h' : (concat pieces).IsRead most between rest) : (concat (piece :: pieces)).IsRead most tokens rest where
  whole := by
    rw [h.whole, h'.whole, ← List.append_assoc]
    rfl
  balanced := h.balanced.append h'.balanced
  tests {behind rest'} same := by
    obtain ⟨later, found', read'⟩ := h'.tests same
    have ahead : between = ((concat pieces).tokens ++ behind) ++ rest' := by
      rw [h'.whole, same, List.append_assoc]
    obtain ⟨places, found, read⟩ := h.tests ahead
    refine ⟨places ++ later, ?_, List.rel_append read read'⟩
    rw [List.append_assoc, ← found', ← found, ← List.append_assoc]
    rfl
  nests {due tested} before tidy := by
    have first := h.nests before (Token.tidy_left tidy)
    have others := h'.nests (fun last => ?_) (Token.tidy_right tidy first)
    · exact (Token.nest_append _ _ _).trans (Option.bind_eq_some_iff.mpr ⟨_, first, others⟩)
    · rcases Token.endsTested_cases last with ⟨none_, rfl⟩ | ends
      · have same := h.whole
        rw [none_, List.nil_append] at same
        exact same ▸ before rfl
      · exact h.ends ends
  ends tested := by
    have last := (Token.endsTested_append false piece.tokens (concat pieces).tokens).symm.trans tested
    rcases Token.endsTested_cases last with ⟨none_, ends⟩ | ends
    · have same := h'.whole
      rw [none_, List.nil_append] at same
      exact same ▸ h.ends ends
    · exact h'.ends ends

end Scanned.IsRead

namespace Reader

variable {depth : Option Inside} {named : Bool} {brackets : Nat}

/-! ## Inside brackets -/

/-- **What can be read inside a bracket** closes what it opens. -/
structure InsideRises (most : Nat) (inner : Inside) : Prop where
  path (due : List Text) : Rises false due due inner.path
  node (due : List Text) : Rises false due due inner.node
  properties (due : List Text) : Rises false due due inner.properties
  brackets {tokens rest : List Token} {scanned : Scanned} : inner.brackets.read tokens = .done scanned rest →
    scanned.IsRead most tokens rest
  content (due : List Text) : Rises false due due inner.content

/-- **Wherever a bracket may open**, what can be read inside it closes what it opens. -/
def DepthRises (most : Nat) : Option Inside → Prop
  | some inner => InsideRises most inner
  | none => True

theorem enter_done {bracket : Token} {inner : Inside} (read : (enter depth bracket).read tokens = .done inner rest) :
    depth = some inner ∧ tokens = rest := by
  cases depth with
  | none => cases read
  | some inside =>
    obtain ⟨rfl, rfl⟩ := Reading.done.inj read
    exact ⟨rfl, rfl⟩

/-- **A bracket that is opened, or not**, and where it leads. -/
theorem open?_done {brackets : List String} {found : Option (Token × Inside)}
    (read : (open? depth brackets).read tokens = .done found rest) :
    (found = none ∧ tokens = rest ∧ tokens.head?.any (·.isSymbol brackets) = false) ∨
      ∃ opening inner, found = some (opening, inner) ∧ depth = some inner ∧ tokens = opening :: rest ∧
        opening.isSymbol brackets = true := by
  obtain ⟨_, _, peeked, chosen⟩ := bind_done.mp read
  obtain ⟨rfl, rfl⟩ := Reading.done.inj peeked
  cases first : tokens.head?.filter (·.isSymbol brackets) with
  | none =>
    rw [first] at chosen
    obtain ⟨rfl, rfl⟩ := pure_done.mp chosen
    refine .inl ⟨rfl, rfl, ?_⟩
    cases head : tokens.head? with
    | none => rfl
    | some token =>
      rw [head] at first
      simpa using first
  | some bracket =>
    rw [first] at chosen
    obtain ⟨inner, _, entered, taking⟩ := bind_done.mp chosen
    obtain ⟨rfl, rfl⟩ := enter_done entered
    obtain ⟨_ | opening, _, accepted, gives⟩ := bind_done.mp taking
    · obtain ⟨rfl, rfl⟩ := pure_done.mp gives
      obtain ⟨rfl, missed⟩ := accept?_none.mp accepted
      exact .inl ⟨rfl, rfl, missed⟩
    · obtain ⟨rfl, rfl⟩ := pure_done.mp gives
      obtain ⟨rfl, is⟩ := accept?_some.mp accepted
      exact .inr ⟨opening, inner, rfl, rfl, rfl, is⟩

theorem shut_done {expected : Expected} {p : Token → Bool} {bracket : Token}
    (read : (shut expected p).read tokens = .done bracket rest) : tokens = bracket :: rest ∧ p bracket = true := by
  obtain ⟨_, _, required, shifted⟩ := bind_done.mp read
  obtain ⟨_, _, shift_, gives⟩ := bind_done.mp shifted
  obtain ⟨-, rfl⟩ := Reading.done.inj shift_
  obtain ⟨rfl, rfl⟩ := pure_done.mp gives
  exact require_done.mp required

/-- **A group in braces** ends with the brace that closes the first one. -/
theorem group_done (hd : DepthRises most depth) {pattern : Group}
    (read : (group depth).read tokens = .done pattern rest) :
    ∃ opening inner closing, tokens = opening :: (inner ++ closing :: rest) ∧ opening.isSymbol ["\x7b"] = true ∧
      (∀ due, Leads false due due inner) ∧ closing.isSymbol ["\x7d"] = true := by
  obtain ⟨opening, _, opened, entering⟩ := bind_done.mp read
  obtain ⟨rfl, opens⟩ := require_done.mp opened
  obtain ⟨inside, _, entered, further⟩ := bind_done.mp entering
  obtain ⟨rfl, rfl⟩ := enter_done entered
  obtain ⟨_, _, content, behind⟩ := bind_done.mp further
  obtain ⟨inner, rfl, leads⟩ := Rises.always hd.content content
  obtain ⟨closing, _, closed, gives⟩ := bind_done.mp behind
  obtain ⟨-, rfl⟩ := pure_done.mp gives
  obtain ⟨rfl, closes⟩ := shut_done closed
  exact ⟨opening, inner, closing, rfl, opens, leads, closes⟩

/-! ## Pieces -/

/-- **A test is read with its group.** -/
theorem existsTest_isRead (hd : DepthRises brackets (inside brackets))
    (read : (existsTest (inside brackets)).read tokens = .done scanned rest)
    (starts : tokens.head?.any (·.spells ["EXISTS"]) = true) : scanned.IsRead brackets tokens rest := by
  obtain ⟨⟨taken, pattern⟩, behind, testRead, gives⟩ := bind_done.mp read
  obtain ⟨rfl, rfl⟩ := pure_done.mp gives
  obtain ⟨inner, rfl⟩ := taking_done testRead
  obtain ⟨negated, _, accepted, further⟩ := bind_done.mp inner
  cases negated with
  | true =>
    obtain ⟨token, rfl, negates⟩ := accept_true.mp accepted
    rw [List.head?_cons, Option.any_some, not_spells_of_spells negates (by decide)] at starts
    cases starts
  | false =>
    obtain ⟨rfl, -⟩ := accept_false.mp accepted
    obtain ⟨word, _, required, groupRead⟩ := bind_done.mp further
    obtain ⟨rfl, is⟩ := require_done.mp required
    obtain ⟨opening, content, closing, rfl, opens, leads, closes⟩ := group_done hd groupRead
    have whole : word :: opening :: (content ++ closing :: behind) =
        (word :: opening :: (content ++ [closing])) ++ behind := by
      rw [List.cons_append, List.cons_append, List.append_assoc]
      rfl
    have taken : gone (word :: opening :: (content ++ closing :: behind)) behind =
        word :: opening :: (content ++ [closing]) := by
      rw [whole, gone_append]
    rw [taken]
    exact .test (Nat.le_refl _) is opens (leads []).number leads closes groupRead

/-- **A piece of an expression** that does not start with a closing bracket. -/
theorem piece_isRead (hd : DepthRises brackets (inside brackets))
    (read : (piece (inside brackets)).read tokens = .done scanned rest) (opens : tokens.head?.any isCloser = false) :
    scanned.IsRead brackets tokens rest := by
  obtain ⟨tests, _, ahead, chosen⟩ := bind_done.mp read
  obtain ⟨rfl, rfl⟩ := Reading.done.inj ahead
  split at chosen
  · next both =>
    exact existsTest_isRead hd chosen ((Bool.and_eq_true _ _).mp both).1
  next missed =>
  obtain ⟨found, _, opened, further⟩ := bind_done.mp chosen
  rcases open?_done opened with ⟨rfl, rfl, none_⟩ | ⟨opening, inner, rfl, deeper, rfl, is⟩
  · obtain ⟨token, _, required, gives⟩ := bind_done.mp further
    obtain ⟨rfl, rfl⟩ := pure_done.mp gives
    obtain ⟨rfl, -⟩ := require_done.mp required
    exact .single (Bool.or_eq_false_iff.mpr ⟨none_, opens⟩) ((Bool.not_eq_true _).mp missed)
  · rw [deeper] at hd
    obtain ⟨scanned, _, innerRead, closing_⟩ := bind_done.mp further
    obtain ⟨closing, _, closed, gives⟩ := bind_done.mp closing_
    obtain ⟨rfl, rfl⟩ := pure_done.mp gives
    obtain ⟨rfl, closes⟩ := shut_done closed
    exact .pair is (hd.brackets innerRead) closes

/-- Pieces up to a closing bracket. -/
theorem brackets_isRead (hd : DepthRises brackets (inside brackets))
    (read : (Reader.brackets (inside brackets)).read tokens = .done scanned rest) :
    scanned.IsRead brackets tokens rest := by
  obtain ⟨pieces, _, piecesRead, gives⟩ := bind_done.mp read
  obtain ⟨rfl, rfl⟩ := pure_done.mp gives
  refine many_induction (motive := fun tokens pieces rest => (Scanned.concat pieces).IsRead brackets tokens rest)
    (fun _ => .nothing) (fun read => ?_) (fun read further => ?_) piecesRead <;>
  obtain ⟨closes, _, ahead, chosen⟩ := bind_done.mp read <;>
  obtain ⟨isCloser_, rfl⟩ := next_done.mp ahead <;>
  cases closes
  · obtain ⟨_, _, -, gives⟩ := bind_done.mp chosen
    cases (pure_done.mp gives).1
  · exact (pure_done.mp chosen).2
  · obtain ⟨piece, _, pieceRead, gives⟩ := bind_done.mp chosen
    obtain ⟨same, rfl⟩ := pure_done.mp gives
    obtain rfl := Option.some.inj same
    exact .cons (piece_isRead hd pieceRead isCloser_) further
  · cases (pure_done.mp chosen).1

/-- A piece is read where the expression does not end. -/
theorem outerPiece_done {found : Option Scanned} (read : (outerPiece depth named).read tokens = .done found rest) :
    (found = none ∧ tokens = rest) ∨
      ∃ scanned, found = some scanned ∧ tokens.head?.any isCloser = false ∧
        (piece depth).read tokens = .done scanned rest := by
  obtain ⟨ends, _, ahead, chosen⟩ := bind_done.mp read
  obtain ⟨round, rfl⟩ := next_done.mp ahead
  cases ends with
  | true =>
    obtain ⟨rfl, rfl⟩ := pure_done.mp chosen
    exact .inl ⟨rfl, rfl⟩
  | false =>
    obtain ⟨stops, _, ahead, chosen⟩ := bind_done.mp chosen
    obtain ⟨brace, rfl⟩ := next_done.mp ahead
    cases stops with
    | true => exact (refuse_done.mp chosen).elim
    | false =>
      obtain ⟨scanned, _, pieceRead, gives⟩ := bind_done.mp chosen
      obtain ⟨rfl, rfl⟩ := pure_done.mp gives
      refine .inr ⟨scanned, rfl, ?_, pieceRead⟩
      cases head : tokens.head? with
      | none => rfl
      | some token =>
        rw [head, Option.any_some] at round brace
        rw [Option.any_some, isCloser, Token.isSymbol_cons, (Bool.or_eq_false_iff.mp round).1, brace]
        rfl

/-- **The pieces of an expression**, outside its inner brackets. -/
theorem outerPieces_isRead (hd : DepthRises brackets (inside brackets)) {pieces : List Scanned}
    (read : (many (outerPiece (inside brackets) named)).read tokens = .done pieces rest) :
    (Scanned.concat pieces).IsRead brackets tokens rest := by
  refine many_induction (motive := fun tokens pieces rest => (Scanned.concat pieces).IsRead brackets tokens rest)
    (fun _ => .nothing) (fun read => ?_) (fun read further => ?_) read
  · rcases outerPiece_done read with ⟨-, same⟩ | ⟨_, found, -, -⟩
    · exact same
    · cases found
  · rcases outerPiece_done read with ⟨none_, -⟩ | ⟨piece, found, opens, pieceRead⟩
    · cases none_
    · obtain rfl := Option.some.inj found
      exact .cons (piece_isRead hd pieceRead opens) further

/-- **What an expression is read from.** -/
theorem expression_isRead (hd : DepthRises brackets (inside brackets)) {found : Expression}
    (read : (expression (inside brackets) named).read tokens = .done found rest) :
    ∃ scanned : Scanned, found = scanned.expression ∧ scanned.IsRead brackets tokens rest := by
  obtain ⟨pieces, _, piecesRead, gives⟩ := bind_done.mp read
  obtain ⟨rfl, rfl⟩ := pure_done.mp gives
  exact ⟨_, rfl, outerPieces_isRead hd piecesRead⟩

end Reader

end QuerySignature
