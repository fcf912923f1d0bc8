import QuerySignature.Proofs.Outcome.Moved
import QuerySignature.Proofs.Outcome.Ceilings
import QuerySignature.Proofs.Paired.Readers
import QuerySignature.Proofs.Spaced.Groups

/-!
# Proofs/Spaced/Filters — the text of an expression is read back

    FILTER ( inner ) rest  ──tokens elsewhere──▸  ──between spaces──▸  FILTER ( text )

The expression of a filter in a text has a text of its own, and a filter with this text is read as the same expression,
with the same groups but for the places of their blocks (`readsBack_of_hasFilter`).  The scanner finds the same words
there, unless one of them is a bare word that starts with a truth value and goes on with a character outside ASCII;
between spaces that one is cut in two (`not_readsBack`).
-/

namespace QuerySignature

open Piece
open Reader (inside pattern)

/-! ## Filters -/

/-- **Among the tokens a filter is read**, at any depth: its keyword, and its expression between round brackets. -/
inductive Token.HasFilter (tokens : List Token) : List Token → Expression → Prop where
  | read {brackets : Nat} {filter opening closing : Token} {inner rest : List Token} {found : Expression} :
      filter :: opening :: (inner ++ closing :: rest) <:+ tokens → filter.spells ["FILTER"] = true →
      opening.isSymbol ["("] = true →
      (pattern (inside brackets)).read (filter :: opening :: (inner ++ closing :: rest)) = .done (.filter found) rest →
      HasFilter tokens inner found

/-- **The limits admit the filter**: no ceiling cuts off the scanner or the reader. -/
structure Limits.Admits (limits : Limits) (text : Text) : Prop where
  scanned : ∀ reached value maximum position, tokenize limits text ≠ .error (.ceiling reached value maximum position)
  read : ∀ tokens, tokenize limits text = .ok tokens → ∀ bracket rest,
    (pattern (inside limits.maxDepth)).read (Token.beforeEnd tokens).1 ≠ .stopped (.tooDeep bracket) rest

/-- **The text of the expression is read back**: a filter with it is one with the same text and variables, and with the
same groups wherever their blocks stand. -/
def Expression.ReadsBack (limits : Limits) (found : Expression) : Prop :=
  ∃ tokens again, tokenize limits (filterText found.text) = .ok tokens ∧
    (pattern (inside limits.maxDepth)).read (Token.beforeEnd tokens).1 = .done (.filter again) [] ∧
    again.text = found.text ∧ again.vars = found.vars ∧
    Group.unplacedAll again.patterns = Group.unplacedAll found.patterns

/-- A filter that is read to its end is admitted. -/
theorem Limits.Admits.of_read {limits : Limits} {text : Text} {tokens rest : List Token} {found : Element}
    (tokenized : tokenize limits text = .ok tokens)
    (read : (pattern (inside limits.maxDepth)).read (Token.beforeEnd tokens).1 = .done found rest) :
    limits.Admits text := by
  refine ⟨fun _ _ _ _ cut => ?_, fun _ same _ _ stopped => ?_⟩
  · rw [tokenized] at cut
    cases cut
  · obtain rfl := Except.ok.inj (tokenized.symm.trans same)
    rw [read] at stopped
    cases stopped

namespace Reader

variable {depth : Option Inside} {β : Type} {filter opening closing closing' : Token}
  {inner inner' tokens rest : List Token} {found : Expression}

/-- Where the next token is accepted. -/
theorem ifAccept_take {p : Token → Bool} {M : Bool → Reader β} {token : Token} (holds : p token = true) :
    (accept p >>= M).read (token :: tokens) = (M true).read tokens := by
  rw [bind_read, accept_true.mpr ⟨token, rfl, holds⟩]

/-- Where it is not. -/
theorem ifAccept_pass {p : Token → Bool} {M : Bool → Reader β} {token : Token} (other : p token = false) :
    (accept p >>= M).read (token :: tokens) = (M false).read (token :: tokens) := by
  have none_ : (token :: tokens).head?.any p = false := other
  rw [bind_read, accept_false.mpr ⟨rfl, none_⟩]

/-- **Behind its keyword a filter is a constraint.** -/
theorem pattern_filter (is : filter.spells ["FILTER"] = true) :
    (pattern depth).read (filter :: tokens) = (constraint depth >>= fun found => pure (Element.filter found)).read tokens := by
  have other {words : List String} (apart : ∀ word ∈ ["FILTER".toList], word ∉ words.map String.toList) :
      filter.spells words = false := not_spells_of_spells is apart
  have brace : filter.isSymbol ["\x7b"] = false := by
    rw [Bool.eq_false_iff]
    intro symbol
    rw [not_spells (by rw [kind_of_isSymbol symbol]; decide)] at is
    cases is
  rw [pattern, bind_read, next_read, List.head?_cons, Option.any_some, brace]
  -- the keywords in front of it, in the order in which they are looked for
  refine (ifAccept_pass (other (by decide))).trans <| (ifAccept_pass (other (by decide))).trans <|
    (ifAccept_pass (other (by decide))).trans <| (ifAccept_pass (other (by decide))).trans ?_
  exact ifAccept_take is

/-- **A constraint in brackets** is an expression that is not empty, and the bracket behind it. -/
theorem constraint_brackets (opens : opening.isSymbol ["("] = true) :
    (constraint depth).read (opening :: tokens) = .done found rest ↔
      ∃ closing, (someExpression depth false).read tokens = .done found (closing :: rest) ∧
        closing.isSymbol [")"] = true := by
  rw [constraint, ifAccept_take opens]
  constructor
  · intro read
    obtain ⟨_, _, innerRead, closed⟩ := bind_done.mp read
    obtain ⟨closing, _, required, gives⟩ := bind_done.mp closed
    obtain ⟨rfl, rfl⟩ := pure_done.mp gives
    obtain ⟨rfl, closes⟩ := require_done.mp required
    exact ⟨closing, innerRead, closes⟩
  · rintro ⟨closing, innerRead, closes⟩
    exact bind_done.mpr ⟨found, _, innerRead, bind_done.mpr ⟨closing, _, require_done.mpr ⟨rfl, closes⟩, rfl⟩⟩

/-- **A filter with brackets** is read as its expression is. -/
theorem filter_brackets (is : filter.spells ["FILTER"] = true) (opens : opening.isSymbol ["("] = true) :
    (pattern depth).read (filter :: opening :: tokens) = .done (.filter found) rest ↔
      ∃ closing, (someExpression depth false).read tokens = .done found (closing :: rest) ∧
        closing.isSymbol [")"] = true := by
  rw [pattern_filter is, ← constraint_brackets opens, bind_done]
  constructor
  · rintro ⟨_, _, read, gives⟩
    obtain ⟨same, rfl⟩ := pure_done.mp gives
    rwa [← Element.filter.inj same]
  · exact fun read => ⟨found, rest, read, rfl⟩

/-- The bracket behind an expression is the one in front of what is left. -/
theorem filter_closing (is : filter.spells ["FILTER"] = true) (opens : opening.isSymbol ["("] = true)
    (read : (pattern depth).read (filter :: opening :: (inner ++ closing :: rest)) = .done (.filter found) rest) :
    (someExpression depth false).read (inner ++ closing :: rest) = .done found (closing :: rest) ∧
      closing.isSymbol [")"] = true := by
  obtain ⟨last, innerRead, closes⟩ := (filter_brackets is opens).mp read
  obtain ⟨taken, whole⟩ := exists_taken innerRead
  obtain ⟨-, same⟩ := List.append_inj' whole rfl
  obtain ⟨rfl, -⟩ := List.cons.inj same
  exact ⟨innerRead, closes⟩

/-! ## Expressions -/

/-- What an expression is read from is taken by it. -/
theorem someExpression_text {brackets : Nat} {named : Bool}
    (read : (someExpression (inside brackets) named).read (inner ++ rest) = .done found rest) :
    found.text = Token.spaced inner := by
  obtain ⟨found', _, innerRead, gives⟩ := bind_done.mp read
  split at gives
  · exact (refuse_done.mp gives).elim
  obtain ⟨rfl, rfl⟩ := pure_done.mp gives
  obtain ⟨scanned, rfl, is⟩ := expression_isRead (inside_rises brackets) innerRead
  rw [List.append_cancel_right is.whole]
  rfl

/-- Where more brackets may be open, an expression is the same. -/
theorem someExpression_deeper {brackets more : Nat} {named : Bool} (le : brackets ≤ more)
    (read : (someExpression (inside brackets) named).read tokens = .done found rest) :
    (someExpression (inside more) named).read tokens = .done found rest :=
  (someExpression_tracks (inside_tracks (.inr ⟨trivial, le⟩))).done_deeper
    (Expression.eq_of_like Likeness.forgiving_exact _ _) read

/-- An expression elsewhere is the same, but for the places of its blocks. -/
theorem someExpression_moved {brackets : Nat} {named : Bool} {rest' : List Token}
    (moved : List.Forall₂ Token.Moved inner inner') (behind : List.Forall₂ Token.Moved rest rest')
    (read : (someExpression (inside brackets) named).read (inner ++ rest) = .done found rest) :
    ∃ again, (someExpression (inside brackets) named).read (inner' ++ rest') = .done again rest' ∧
      again.unplaced = found.unplaced := by
  let reader := someExpression (inside brackets) named
  have taken : (reader.steps (inner ++ rest)).flatMap Step.tokens = inner :=
    List.append_cancel_right (conserves_done read)
  have respells := respells_moved (reader.sound _) (taken.symm ▸ moved)
  obtain ⟨again, readAgain, like, -⟩ := (someExpression_tracks (inside_tracks (.inl rfl))).done read respells
    (ahead_moved behind)
  exact ⟨again, readAgain, Expression.unplaced_of_like Likeness.moved_faithful _ _ like⟩

end Reader

/-- Tokens elsewhere call no truth value either. -/
theorem Calls.moved {tokens tokens' : List Token} (calls : Calls tokens) (moved : List.Forall₂ Token.Moved tokens tokens') :
    Calls tokens' := by
  rintro u' t' v' ⟨front', back', rfl⟩ plain truth
  obtain ⟨_, back, rfl, firsts, -⟩ := forall₂_of_append moved.flip
  obtain ⟨front, _, rfl, -, called⟩ := forall₂_of_append firsts
  obtain _ | ⟨u, _ | ⟨t, _ | ⟨v, _ | _⟩⟩⟩ := called
  refine (Respects.isSymbol _ v.alike).trans (calls ⟨front, back, rfl⟩ ?_ ?_)
  · unfold Token.isPlain at plain ⊢
    rwa [← u.kind]
  · unfold Token.isTruth at truth ⊢
    rwa [← t.kind, ← t.text]

/-- **An expression elsewhere and between spaces** is the same, but for the places of its blocks. -/
theorem Reader.someExpression_spaced {brackets : Nat} {named : Bool} {inner inner' rest : List Token}
    {closing closing' : Token} {found : Expression} (calls : Calls inner) (moved : List.Forall₂ Token.Moved inner inner')
    (closes : closing.isSymbol [")"] = true) (closes' : closing'.isSymbol [")"] = true)
    (read : (someExpression (inside brackets) named).read (inner ++ closing :: rest) = .done found (closing :: rest)) :
    ∃ again, (someExpression (inside brackets) named).read (inner'.map Token.apart ++ [closing']) = .done again [closing'] ∧
      again.unplaced = found.unplaced := by
  have same : closing.Moved closing' :=
    ⟨(kind_of_isSymbol closes').trans (kind_of_isSymbol closes).symm,
      (text_of_isSymbol closes').trans (text_of_isSymbol closes).symm⟩
  obtain ⟨again, readAgain, unplaced⟩ :=
    someExpression_moved moved (.cons same (List.forall₂_same.mpr fun token _ => ⟨rfl, rfl⟩)) read
  have kept : Kept ⟨closing', closes', rest, []⟩ (someExpression (inside brackets) named) :=
    .someExpression (inside_kept brackets)
  exact ⟨again, @kept inner' (calls.moved moved) [] again readAgain, unplaced⟩

/-- Expressions that differ in the places of their blocks only. -/
theorem Expression.unplaced_eq_iff {first second : Expression} :
    first.unplaced = second.unplaced ↔ first.text = second.text ∧ first.vars = second.vars ∧
      Group.unplacedAll first.patterns = Group.unplacedAll second.patterns := by
  obtain ⟨text, vars, patterns⟩ := first
  obtain ⟨text', vars', patterns'⟩ := second
  rw [unplaced, unplaced, Expression.mk.injEq]

variable {limits limits' : Limits} {text : Text} {tokens inner : List Token} {found : Expression}

/-- Where more brackets may be open, a filter that the limits admit is the same. -/
theorem Limits.Admits.read_deeper {more : Nat} (admits : limits.Admits text) (tokenized : tokenize limits text = .ok tokens)
    (le : limits.maxDepth ≤ more) : (pattern (inside more)).read (Token.beforeEnd tokens).1 =
      (pattern (inside limits.maxDepth)).read (Token.beforeEnd tokens).1 :=
  (Reader.pattern_tracks (Reader.inside_tracks (.inr ⟨trivial, le⟩))).read_deeper
    (Element.eq_of_like Likeness.forgiving_exact _ _) (admits.read tokens tokenized)

/-- **A filter in a text is read back**, if the expression in it holds no word that is cut in two between spaces, and if
the limits admit it. -/
theorem readsBack_of_hasFilter (tokenized : tokenize limits text = .ok tokens)
    (filter : Token.HasFilter (Token.beforeEnd tokens).1 inner found) (whole : ∀ word ∈ inner, ¬word.Splits)
    (admits : limits'.Admits (filterText found.text)) : found.ReadsBack limits' := by
  obtain ⟨-, pieces, cut, rfl, -, rfl⟩ := tokenize_eq_ok.mp tokenized
  rw [beforeEnd_placed cut] at filter
  obtain @⟨brackets, filter, opening, closing, _, rest, _, suffix_, is, opens, read⟩ := filter
  obtain ⟨innerRead, closes⟩ := Reader.filter_closing is opens read
  have among : inner <:+: placed .start pieces :=
    (List.prefix_append inner (closing :: rest)).isInfix.trans
      ((List.suffix_append [filter, opening] _).isInfix.trans suffix_.isInfix)
  -- the words of the expression, cut out of the text of a filter of its own
  obtain ⟨pieces', filter', opening', closing', inner', cut', written_, placed_, moved, is', opens', closes'⟩ :=
    exists_filterPieces fun word member => ⟨found_of_mem cut (among.subset member), whole word member⟩
  rw [← Reader.someExpression_text innerRead] at written_
  rw [← written_] at admits
  have tokenized' := tokenize_of_isCut cut' admits.scanned
  -- both expressions are read where the more brackets may be open
  obtain ⟨again, spaced, unplaced⟩ := Reader.someExpression_spaced ((calls_of_isCut cut).mono among) moved closes closes'
    (Reader.someExpression_deeper (Nat.le_max_left brackets limits'.maxDepth) innerRead)
  rw [Expression.ReadsBack, ← written_]
  refine ⟨_, again, tokenized', ?_, Expression.unplaced_eq_iff.mp unplaced⟩
  rw [← admits.read_deeper tokenized' (Nat.le_max_right brackets _), beforeEnd_placed cut', placed_]
  exact (Reader.filter_brackets is' opens').mpr ⟨closing', spaced, closes'⟩

/-- A truth value behind a digit, and a test with a block. -/
theorem readsBack_of_hasFilter_truth :
    let text := "ASK \x7b FILTER (1true || EXISTS \x7b VALUES ?x \x7b \x7d \x7d) \x7d".toList
    let found : Expression :=
      ⟨"1 true || EXISTS \x7b VALUES ?x \x7b \x7d \x7d".toList, [['x']], [.pattern [.values ⟨[['x']], [], ⟨32, 45⟩⟩]]⟩
    ∃ tokens inner, tokenize .standard text = .ok tokens ∧
      Token.HasFilter (Token.beforeEnd tokens).1 inner found ∧ (∀ word ∈ inner, ¬word.Splits) ∧
      Limits.standard.Admits (filterText found.text) ∧ found.ReadsBack .standard := by
  intro text found
  let token (kind : Token.Kind) (text : String) (offset : Int) : Token := ⟨kind, text.toList, ⟨1, offset + 1, offset⟩⟩
  let test (offset : Int) : List Token := [token .punctuation "||" offset, token .keyword "EXISTS" (offset + 3),
    token .punctuation "\x7b" (offset + 10), token .keyword "VALUES" (offset + 12), token .var "?x" (offset + 19),
    token .punctuation "\x7b" (offset + 22), token .punctuation "\x7d" (offset + 24),
    token .punctuation "\x7d" (offset + 26)]
  let inner := token .literal "1" 14 :: token .keyword "true" 15 :: test 20
  let filter := token .keyword "FILTER" 6 :: token .punctuation "(" 13 ::
    (inner ++ token .punctuation ")" 47 :: [token .punctuation "\x7d" 49])
  let again := token .keyword "FILTER" 0 :: token .punctuation "(" 7 :: token .literal "1" 8 ::
    token .literal "true" 10 :: (test 15 ++ [token .punctuation ")" 42])
  have tokenized : tokenize .standard text =
    .ok (token .keyword "ASK" 0 :: token .punctuation "\x7b" 4 :: filter ++ [token .eof "" 50]) := by decide +kernel
  have read : (pattern (inside 2)).read filter = .done (.filter found) [token .punctuation "\x7d" 49] := rfl
  have hasFilter : Token.HasFilter _ inner found :=
    .read (List.suffix_append [token .keyword "ASK" 0, token .punctuation "\x7b" 4] filter) rfl rfl read
  have whole : ∀ word ∈ inner, ¬word.Splits := by decide
  have tokenized' : tokenize .standard (filterText found.text) = .ok (again ++ [token .eof "" 43]) := by decide +kernel
  have admits : Limits.standard.Admits (filterText found.text) := .of_read tokenized' rfl
  exact ⟨_, inner, tokenized, hasFilter, whole, admits, readsBack_of_hasFilter tokenized hasFilter whole admits⟩

/-- **A word that is cut in two is not read back**: directly behind a digit `trueé` is one bare word, and behind a space
it is the literal `true` and the word `é`. -/
theorem not_readsBack :
    ¬∀ {limits limits' : Limits} {text : Text} {query : Query} {tokens inner : List Token} {found : Expression},
      parse limits text = .ok query → tokenize limits text = .ok tokens →
      Token.HasFilter (Token.beforeEnd tokens).1 inner found → limits'.Admits (filterText found.text) →
      found.ReadsBack limits' := by
  intro everyReadsBack
  let token (kind : Token.Kind) (text : String) (offset : Int) : Token := ⟨kind, text.toList, ⟨1, offset + 1, offset⟩⟩
  let found : Expression := ⟨"1 trueé".toList, [], []⟩
  let inner := [token .literal "1" 14, token .keyword "trueé" 15]
  let filter := token .keyword "FILTER" 6 :: token .punctuation "(" 13 ::
    (inner ++ token .punctuation ")" 20 :: [token .punctuation "\x7d" 22])
  let again := [token .keyword "FILTER" 0, token .punctuation "(" 7, token .literal "1" 8, token .literal "true" 10,
    token .keyword "é" 14, token .punctuation ")" 15]
  have parsed : parse .standard "ASK \x7b FILTER (1trueé) \x7d".toList =
    .ok ⟨[], .ask (.pattern [.filter found]) .empty none⟩ := rfl
  have tokenized : tokenize .standard "ASK \x7b FILTER (1trueé) \x7d".toList =
    .ok (token .keyword "ASK" 0 :: token .punctuation "\x7b" 4 :: filter ++ [token .eof "" 23]) := by decide +kernel
  have read : (pattern (inside 2)).read filter = .done (.filter found) [token .punctuation "\x7d" 22] := rfl
  have hasFilter : Token.HasFilter _ inner found :=
    .read (List.suffix_append [token .keyword "ASK" 0, token .punctuation "\x7b" 4] filter) rfl rfl read
  have tokenized' : tokenize .standard (filterText found.text) = .ok (again ++ [token .eof "" 16]) := by decide +kernel
  have readAgain : (pattern (inside Limits.standard.maxDepth)).read again =
    .done (.filter ⟨"1 true é".toList, [], []⟩) [] := rfl
  have admits : Limits.standard.Admits (filterText found.text) := .of_read tokenized' readAgain
  obtain ⟨tokens, split, same, splitRead, text, -⟩ := everyReadsBack parsed tokenized hasFilter admits
  obtain rfl := Except.ok.inj (tokenized'.symm.trans same)
  obtain ⟨is, -⟩ := Reading.done.inj (readAgain.symm.trans splitRead)
  rw [← Element.filter.inj is] at text
  exact absurd text (by decide)

end QuerySignature
