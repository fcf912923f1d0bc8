import QuerySignature.Proofs.Path.Neighbours
import QuerySignature.Proofs.Token.Alone

/-!
# Proofs/Path/Glued — the tokens of a path without a space between them

The text of a path is that of its tokens, one directly behind the other.  The scanner takes as much as it can, so two
tokens might become one there: two bars, a `?` and a name.  Tokens that adjoin in a path never do: behind an element
stands a mark that is in no name (`Scan.lexeme?_step`), and no symbol of two characters starts with a mark and the
first character of an element (`Lexeme.Apart`).  So the scanner cuts the text of a path into its tokens again
(`isCut_glued`).
-/

namespace QuerySignature

namespace Lexeme

variable {y : Text}

/-! ## What follows an element -/

/-- The characters that go on behind an element. -/
def pathMarks : List Char := "*+?/|)".toList

/-- **What may follow an element**: nothing, or such a character. -/
def Marked (text : Text) : Prop :=
  ∀ c ∈ text.head?, c ∈ pathMarks

theorem Marked.nil : Marked [] := nofun

theorem Marked.any {p : Char → Bool} (h : Marked y) (plain : pathMarks.all (!p ·) = true) : y.head?.any p = false := by
  cases y with
  | nil => rfl
  | cons c rest => exact (Bool.not_eq_true' _).mp (List.all_eq_true.mp plain c (h c rfl))

/-- No local name goes on with a mark. -/
theorem Marked.localName (h : Marked y) (taken good : Nat) : localName y taken good = good := by
  have plain : pathMarks.all fun c => !(['%', '\\', ':', '-', '.'].contains c || Text.isWord c) := rfl
  cases y with
  | nil => rw [Lexeme.localName]
  | cons c rest =>
    have other := List.all_eq_true.mp plain c (h c rfl)
    simp only [List.contains_cons, List.contains_nil, Bool.or_false, Bool.not_or, Bool.and_eq_true, Bool.not_eq_true',
      beq_eq_false_iff_ne] at other
    obtain ⟨⟨percent, backslash, colon, hyphen, point⟩, word⟩ := other
    rw [localName_plain percent backslash, if_neg (by simp [word, colon]), if_neg (by simp [hyphen]),
      if_neg (by simp [point])]

/-! ## Symbols of one character -/

/-- The characters with which nothing but a symbol or a variable starts. -/
def markHeads : List Char := symbolHeads.filter (· ∉ ['<', '.'])

theorem var_of_markHead {c : Char} (member : c ∈ markHeads) (other : c ≠ '?') : var (c :: y) = none := by
  refine var_of_ne (not_or.mpr ⟨other, ?_⟩) y
  rintro rfl
  revert member
  decide

/-- The symbols of two characters double the first one or end in an equals sign. -/
theorem mem_symbols_pair {c d : Char} (h : [c, d] ∈ symbols) :
    c ∈ ['^', '&', '|'] ∧ d = c ∨ c ∈ ['!', '<', '>'] ∧ d = '=' := by
  have pairs : c = '^' ∧ d = '^' ∨ c = '&' ∧ d = '&' ∨ c = '|' ∧ d = '|' ∨ c = '!' ∧ d = '=' ∨ c = '<' ∧ d = '=' ∨
      c = '>' ∧ d = '=' := by
    simpa [symbols] using h
  rcases pairs with ⟨rfl, rfl⟩ | ⟨rfl, rfl⟩ | ⟨rfl, rfl⟩ | ⟨rfl, rfl⟩ | ⟨rfl, rfl⟩ | ⟨rfl, rfl⟩ <;> decide

/-- **The symbol stands apart from the text**: no longer symbol starts there, and no variable. -/
structure Apart (c : Char) (text : Text) : Prop where
  symbol : ∀ d ∈ text.head?, [c, d] ∉ symbols
  var : c = '?' → text.head?.any Text.isWord = false

theorem symbol_apart {c : Char} (member : [c] ∈ symbols) (apart : ∀ d ∈ y.head?, [c, d] ∉ symbols) :
    symbol (c :: y) = some 1 := by
  cases found : symbol (c :: y) with
  | none =>
    have none_ := List.find?_eq_none.mp (Option.map_eq_none_iff.mp found) [c] member
    exact absurd (List.isPrefixOf_iff_prefix.mpr (List.prefix_append [c] y)) none_
  | some n =>
    obtain ⟨mark, inside, starts, rfl⟩ := symbol_eq_some found
    obtain ⟨pos, short⟩ := symbols_length mark inside
    obtain ⟨rest, whole⟩ := starts
    match mark, pos, short with
    | [_], _, _ => rfl
    | [a, b], _, _ =>
      obtain ⟨rfl, rfl⟩ := List.cons.inj whole
      exact absurd inside (apart b rfl)

end Lexeme

namespace Scan

open Lexeme

variable {before : Option Char} {token : Token} {y : Text}

theorem lexeme?_markHead {c : Char} (member : c ∈ markHeads) (y : Text) (before : Option Char) :
    lexeme? before (c :: y) = ((var (c :: y)).map (Class.token .var, ·)).or
      ((symbol (c :: y)).map (Class.token .punctuation, ·)) := by
  have plain : markHeads.Forall fun c => c ∉ ['#', '<', '"', '\'', '_'] ∧ c ≠ ':' ∧ c ≠ '.' ∧ c.toUpper ≠ 'T' ∧
      c.toUpper ≠ 'F' ∧ (Text.isAlphanumeric c && !Text.isDecimal c) = false ∧ Text.isDecimal c = false ∧
      (Text.isWord c && !Text.isDecimal c) = false := by decide
  obtain ⟨early, colon, point, t, f, letter, digit, word⟩ := List.forall_iff_forall_mem.mp plain c member
  obtain ⟨none₁, none₂, none₃, none₄, none₅⟩ := early_none early y
  rw [lexeme?, none₁, none₂, none₃, none₄, none₅, prefixedName_of_ne colon letter, number_of_ne digit point,
    truthValue_of_ne t f, bareWord_of_ne word]
  rfl

/-- **A symbol of one character is found** where it stands apart. -/
theorem lexeme?_symbol {c : Char} (member : c ∈ markHeads) (one : [c] ∈ symbols) (apart : Apart c y)
    (before : Option Char) : lexeme? before (c :: y) = some (.token .punctuation, 1) := by
  have noVar : var (c :: y) = none := by
    by_cases mark : c = '?'
    · have none_ : run? Text.isWord y = none := run?_stop [] (apart.var mark)
      rw [var, if_pos (.inl mark), none_]
      rfl
    · exact var_of_markHead member mark
  rw [lexeme?_markHead member, noVar, symbol_apart one apart.symbol]
  rfl

/-- No other word starts like a symbol. -/
theorem kind_of_markHead {c : Char} {kind : Token.Kind} {n : Nat} (member : c ∈ markHeads) (mark : c ≠ '?')
    (h : lexeme? before (c :: y) = some (.token kind, n)) : kind = .punctuation := by
  rw [lexeme?_markHead member, var_of_markHead member mark, Option.map_none, Option.none_or, Option.map_eq_some_iff] at h
  obtain ⟨_, -, same⟩ := h
  cases same
  rfl

/-! ## Steps -/

/-- The word `a` is no longer one in front of what follows an element. -/
theorem lexeme?_typeWord (marked : Marked y) : lexeme? before ('a' :: y) = some (.token .keyword, 1) := by
  have all : pathMarks.Forall fun c => ∀ rest, lexeme? before ('a' :: c :: rest) = some (.token .keyword, 1) := by
    refine ⟨?_, ?_, ?_, ?_, ?_, ?_⟩ <;> exact fun rest => rfl
  cases y with
  | nil => rfl
  | cons c rest => exact List.forall_iff_forall_mem.mp all c (marked c rfl) rest

/-- **A step ends in front of what follows an element.** -/
theorem lexeme?_step (step : Reader.isStep token = true) (found : token.Found) (marked : Marked y) :
    lexeme? before (token.text ++ y) = some (.token token.kind, token.text.length) := by
  rcases (Bool.or_eq_true _ _).mp step with resource | word
  · obtain ⟨_, x, -, at_⟩ := found
    rcases (Bool.or_eq_true _ _).mp resource with iri_ | name
    · have kind : token.kind = .iri := of_decide_eq_true iri_
      rw [kind] at at_ ⊢
      have rule : iri (token.text ++ x) = some token.text.length := by simpa using lexeme?_cases at_
      exact lexeme?_iri (iri_alone rule y) before
    · obtain ⟨isName, unmarked⟩ := (Bool.and_eq_true _ _).mp name
      have kind : token.kind = .prefixedName := of_decide_eq_true isName
      rw [kind] at at_ ⊢
      exact lexeme?_name marked.localName ((Bool.not_eq_true' _).mp unmarked) at_
  · have kind : token.kind = .keyword := by
      by_contra other
      rw [Reader.not_spells other] at word
      cases word
    rw [kind, Token.text_of_spells_a word]
    exact lexeme?_typeWord marked

end Scan

open Lexeme Scan

namespace Token

variable {token t u : Token} {before : Option Char} {y : Text}

/-! ## Neighbours -/

/-- **A token that is a symbol of one character.** -/
theorem exists_mark {symbols : List String} (marks : List Char) (h : token.isSymbol symbols = true)
    (same : symbols.map String.toList = marks.map ([·])) :
    token.kind = .punctuation ∧ ∃ c ∈ marks, token.text = [c] := by
  refine ⟨Reader.kind_of_isSymbol h, ?_⟩
  obtain ⟨text, is, member⟩ := (Option.any_eq_true _ _).mp h
  unfold symbol? at is
  rw [if_pos (Reader.kind_of_isSymbol h)] at is
  obtain rfl := Option.some.inj is
  rw [same, List.contains_iff_mem, List.mem_map] at member
  obtain ⟨c, inside, text⟩ := member
  exact ⟨c, inside, text.symm⟩

/-- A step is no punctuation mark. -/
theorem kind_of_isStep (step : Reader.isStep token = true) : token.kind ≠ .punctuation := by
  intro kind
  rcases (Bool.or_eq_true _ _).mp step with resource | word
  · rcases Reader.kind_of_isResource resource with other | other <;> rw [kind] at other <;> cases other
  · rw [Reader.not_spells (by rw [kind]; decide)] at word
    cases word

/-- **An element starts with no character that a symbol in front of it goes on with.** -/
theorem head_of_opensElement (found : token.Found) (opens : token.opensElement = true) :
    ∃ c text, token.text = c :: text ∧ c ∉ ['=', '|'] ∧ (token.isSymbol ["^"] = false → c ≠ '^') := by
  rcases (Bool.or_eq_true _ _).mp opens with step | symbol
  · obtain ⟨c, text, whole⟩ := List.exists_cons_of_ne_nil found.ne_nil
    obtain ⟨_, rest, -, at_⟩ := found
    rw [whole] at at_
    have heads : ['=', '|', '^'].Forall fun c => c ∈ markHeads ∧ c ≠ '?' := by decide
    have other : c ∉ ['=', '|', '^'] := fun mark =>
      have ⟨head, noVar⟩ := List.forall_iff_forall_mem.mp heads c mark
      kind_of_isStep step (kind_of_markHead head noVar at_)
    exact ⟨c, text, whole, fun mark => other (List.mem_append_left ['^'] mark), fun _ caret => other (by simp [caret])⟩
  · obtain ⟨kind, c, member, whole⟩ := exists_mark ['^', '(', '!'] symbol rfl
    have apart : ['^', '(', '!'].Forall fun c => c ∉ ['=', '|'] := by decide
    refine ⟨c, [], whole, List.forall_iff_forall_mem.mp apart c member, fun other caret => ?_⟩
    · have is : token.isSymbol ["^"] = true := by
        simp [isSymbol, isPunctuation, symbol?, kind, whole, caret]
      rw [is] at other
      cases other

/-- **A token that ends an element is found** in front of what follows it. -/
theorem lexeme?_closesElement (found : token.Found) (closes : token.closesElement = true) (marked : Marked y) :
    lexeme? before (token.text ++ y) = some (.token token.kind, token.text.length) := by
  rcases (Bool.or_eq_true _ _).mp closes with step | symbol
  · exact lexeme?_step step found marked
  · obtain ⟨kind, c, member, whole⟩ := exists_mark [')', '*', '+', '?'] symbol rfl
    have heads : [')', '*', '+', '?'].Forall fun c => c ∈ markHeads ∧ [c] ∈ symbols ∧ c ∉ ['^', '&', '|'] ∧
        c ∉ ['!', '<', '>'] := by decide
    obtain ⟨head, one, single, single'⟩ := List.forall_iff_forall_mem.mp heads c member
    rw [kind, whole]
    refine lexeme?_symbol head one ⟨fun d _ pair => ?_, fun _ => marked.any rfl⟩ before
    rcases mem_symbols_pair pair with ⟨first, -⟩ | ⟨first, -⟩
    · exact single first
    · exact single' first

/-- **A token that leads to an element is found** in front of it. -/
theorem lexeme?_leads {c d : Char} {text : Text} (member : c ∈ ['(', '!', '|', '/', '^']) (free : d ∉ ['=', '|'])
    (caret : c = '^' → d ≠ '^') : lexeme? before (c :: d :: text) = some (.token .punctuation, 1) := by
  have heads : ['(', '!', '|', '/', '^'].Forall fun c => c ∈ markHeads ∧ [c] ∈ symbols ∧ c ≠ '?' ∧
      (c ∈ ['^', '&', '|'] → c = '^' ∨ c = '|') := by decide
  obtain ⟨head, one, noVar, twice⟩ := List.forall_iff_forall_mem.mp heads c member
  refine lexeme?_symbol head one ⟨?_, fun mark => absurd mark noVar⟩ before
  rintro _ ⟨⟩ pair
  rcases mem_symbols_pair pair with ⟨first, rfl⟩ | ⟨-, rfl⟩
  · rcases twice first with rfl | rfl
    · exact caret rfl rfl
    · exact free (by decide)
  · exact free (by decide)

/-- **Neighbours in a path do not become one token.** -/
theorem Adjoins.lexeme? (adjoins : Adjoins t u) (found : t.Found) (found' : u.Found) (y : Text) :
    Scan.lexeme? before (t.text ++ (u.text ++ y)) = some (.token t.kind, t.text.length) := by
  cases adjoins with
  | behind closes follows =>
    obtain ⟨-, c, member, whole⟩ := exists_mark pathMarks follows rfl
    refine lexeme?_closesElement found closes ?_
    rw [whole]
    rintro _ ⟨⟩
    exact member
  | before leads opens =>
    obtain ⟨kind, c, member, whole⟩ := exists_mark ['(', '!', '|', '/'] leads rfl
    obtain ⟨d, text, whole', free, -⟩ := head_of_opensElement found' opens
    rw [kind, whole, whole']
    exact lexeme?_leads (List.mem_append_left ['^'] member) free fun caret => by
      subst caret
      exact absurd member (by decide)
  | inverted is opens other =>
    obtain ⟨d, text, whole', free, caret⟩ := head_of_opensElement found' opens
    rw [Reader.kind_of_isSymbol is, text_of_isSymbol is, whole']
    exact lexeme?_leads (by decide) free fun _ => caret other
  | empty opens closes =>
    rw [Reader.kind_of_isSymbol opens, text_of_isSymbol opens, text_of_isSymbol closes]
    exact lexeme?_leads (by decide) (by decide) nofun

/-! ## The cut -/

/-- The token as a piece of its text. -/
def piece (token : Token) : Piece := .word token.kind token.text

end Token

open Piece

theorem written_glued (tokens : List Token) : written (tokens.map Token.piece) = tokens.flatMap Token.text := by
  rw [written, List.flatMap_map]
  rfl

/-- Its tokens are those of the path, elsewhere. -/
theorem moved_glued (tokens : List Token) (position : Position) :
    List.Forall₂ Token.Moved tokens (placed position (tokens.map Token.piece)) := by
  induction tokens generalizing position with
  | nil => exact .nil
  | cons token tokens ih => exact .cons ⟨rfl, rfl⟩ (ih _)

/-- **The text of tokens that adjoin is cut into them.** -/
theorem isCut_glued {tokens : List Token} {before : Option Char} (found : ∀ token ∈ tokens, token.Found)
    (chain : tokens.IsChain Token.Adjoins) (last : ∀ token ∈ tokens.getLast?, token.closesElement = true) :
    IsCut before (tokens.map Token.piece) [] := by
  induction chain generalizing before with
  | nil => trivial
  | singleton t =>
    have here := found t (.head _)
    refine ⟨⟨here.choose_spec.choose_spec.1, ?_⟩, trivial⟩
    exact Token.lexeme?_closesElement here (last t rfl) Marked.nil
  | @cons_cons t u tokens adjoins _ ih =>
    have here := found t (.head _)
    have there := found u (.tail _ (.head _))
    refine ⟨⟨here.choose_spec.choose_spec.1, ?_⟩, ih (List.forall_mem_cons.mp found).2 ?_⟩
    · rw [List.map_cons, written_cons, List.append_assoc]
      exact adjoins.lexeme? here there _
    · rwa [List.getLast?_cons_cons] at last

end QuerySignature
