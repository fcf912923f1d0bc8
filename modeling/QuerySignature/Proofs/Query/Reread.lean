import QuerySignature.Proofs.Binding.Cells
import QuerySignature.Proofs.Orderly.Brackets
import QuerySignature.Proofs.Signature.Blocks
import QuerySignature.Proofs.Token.Ending

/-!
# Proofs/Query/Reread — a term that is written is read again

A term keeps what its tokens write but for a few choices: the mark of a variable, the spaces inside empty brackets and
between a sign and its number, and the case of the open cell.  So its written form is cut into as many tokens as the term
was read from (`Rescans`), and these write the same term (`IsTerm`, `IsCell`), whatever bounds the depth.
-/

namespace QuerySignature

open Piece Lexeme

/-! ## Terms and their tokens -/

/-- The node that a cell would be in a triple; an open cell is none. -/
def Cell.node? : Cell → Option Node
  | resource name => some (.resource name)
  | literal term => some (.literal term)
  | undef => none

/-- **Tokens write a term**: a variable, data, or a blank node with or without its label. -/
inductive IsTerm : List Token → Node → Prop where
  | var {token : Token} : token.kind = .var → IsTerm [token] (.var token.name)
  | data {tokens : List Token} {cell : Cell} {node : Node} : IsCell tokens cell → cell.node? = some node →
      IsTerm tokens node
  | label {token : Token} : token.kind = .prefixedName → token.hasBlankMark = true →
      IsTerm [token] (.blank (some (token.text.drop 2)))
  | empty {opening closing : Token} : opening.isSymbol ["["] = true → closing.isSymbol ["]"] = true →
      IsTerm [opening, closing] (.blank none)

namespace Reader

variable {depth : Option Inside} {tokens rest : List Token} {found : Node} {text : Text}

/-- An atom that has been read is written by its token. -/
theorem atom_writes {token : Token} (is : isAtom token = true) (read : (atom token).read tokens = .done found rest) :
    tokens = rest ∧ IsTerm [token] found := by
  unfold atom at read
  rcases kind_of_isAtom is with kind | kind | kind | kind <;> rw [kind] at read
  · obtain ⟨rfl, rfl⟩ := pure_done.mp read
    exact ⟨rfl, .var kind⟩
  · obtain ⟨rfl, rfl⟩ := pure_done.mp read
    have resource : token.isResource = true := by rw [Token.isResource, kind]; rfl
    exact ⟨rfl, .data (.resource resource) rfl⟩
  · dsimp only at read
    split at read
    · next mark =>
      obtain ⟨rfl, rfl⟩ := pure_done.mp read
      exact ⟨rfl, .label kind mark⟩
    · next plain =>
      obtain ⟨rfl, rfl⟩ := pure_done.mp read
      have resource : token.isResource = true := by
        rw [Token.isResource, Token.isPrefixedName, kind, Bool.eq_false_iff.mpr plain]
        rfl
      exact ⟨rfl, .data (.resource resource) rfl⟩
  · obtain ⟨value, between, valued, gives⟩ := bind_done.mp read
    obtain ⟨reads, rfl⟩ := valued_done.mp valued
    obtain ⟨rfl, rfl⟩ := pure_done.mp gives
    exact ⟨rfl, .data (.literal kind reads) rfl⟩

/-- **A term that has been read is written by the tokens it took.** -/
theorem term_writes : Writes IsTerm term := by
  intro tokens found rest read
  obtain ⟨_ | token, between, accepted, others⟩ := bind_done.mp read
  case some =>
    obtain ⟨rfl, is⟩ := accept?_some.mp accepted
    obtain ⟨rfl, writes⟩ := atom_writes is others
    exact ⟨[token], rfl, writes⟩
  obtain ⟨rfl, -⟩ := accept?_none.mp accepted
  obtain ⟨_ | number, between, signed, gives⟩ := bind_done.mp others
  case none => exact (refuse_done.mp gives).elim
  obtain ⟨sign, digits, rfl, isSign, isNumber, reads⟩ := (signedNumber?_done signed).1 number rfl
  obtain ⟨rfl, rfl⟩ := pure_done.mp gives
  exact ⟨[sign, digits], rfl, .data (.signed isSign isNumber reads) rfl⟩

/-- **A node with a written form is a term**: brackets with something in them have none. -/
theorem node_writes (read : (node depth).read tokens = .done found rest) (written : found.written? = some text) :
    ∃ taken, tokens = taken ++ rest ∧ IsTerm taken found := by
  obtain ⟨_ | ⟨opening, closing⟩, between, accepted, notEmpty⟩ := bind_done.mp read
  case some =>
    obtain ⟨rfl, opens, closes⟩ := acceptTwo?_some.mp accepted
    obtain ⟨rfl, rfl⟩ := pure_done.mp notEmpty
    exact ⟨[opening, closing], rfl, .empty opens closes⟩
  obtain rfl := acceptTwo?_none accepted
  obtain ⟨_ | ⟨bracket, inside⟩, between, opened, notProperties⟩ := bind_done.mp notEmpty
  case some =>
    obtain ⟨list, _, -, closed⟩ := bind_done.mp notProperties
    obtain ⟨_, _, -, gives⟩ := bind_done.mp closed
    obtain ⟨rfl, -⟩ := pure_done.mp gives
    cases written
  obtain rfl := open?_missed opened
  obtain ⟨_ | ⟨bracket, inside⟩, between, opened, notCollection⟩ := bind_done.mp notProperties
  case some =>
    obtain ⟨items, _, -, closed⟩ := bind_done.mp notCollection
    obtain ⟨_, _, -, gives⟩ := bind_done.mp closed
    obtain ⟨rfl, -⟩ := pure_done.mp gives
    cases written
  obtain rfl := open?_missed opened
  exact term_writes notCollection

/-! ## Read back -/

/-- In front of no bracket a node is a term. -/
theorem node_of_term (plain : tokens.head?.any (·.isSymbol ["["]) = false ∧ tokens.head?.any (·.isSymbol ["("]) = false)
    (read : term.read tokens = .done found rest) : (node depth).read tokens = .done found rest := by
  have missed : ¬(tokens.head?.any (·.isSymbol ["["]) && tokens.tail.head?.any (·.isSymbol ["]"])) = true := by
    rw [plain.1, Bool.false_and]
    exact Bool.false_ne_true
  refine bind_done.mpr ⟨none, tokens, (acceptTwo?_missed missed).1, ?_⟩
  refine bind_done.mpr ⟨none, tokens, open?_none plain.1, ?_⟩
  exact bind_done.mpr ⟨none, tokens, open?_none plain.2, read⟩

/-- An atom is a node by itself. -/
theorem node_of_atom {token : Token} (is : isAtom token = true) (read : (atom token).read [] = .done found []) :
    (node depth).read [token] = .done found [] := by
  have plain (symbols : List String) : [token].head?.any (·.isSymbol symbols) = false := by
    refine Bool.eq_false_iff.mpr fun holds => ?_
    rcases kind_of_isAtom is with kind | kind | kind | kind <;> rw [kind_of_isSymbol holds] at kind <;> cases kind
  exact node_of_term ⟨plain _, plain _⟩ (bind_done.mpr ⟨_, _, accept?_some.mpr ⟨rfl, is⟩, read⟩)

/-- **A term is read back** from its tokens, however deep. -/
theorem node_back {taken : List Token} (h : IsTerm taken found) : (node depth).read taken = .done found [] := by
  have isAtom_of {token : Token} (kind : token.kind = .var ∨ token.kind = .iri ∨ token.kind = .prefixedName ∨
      token.kind = .literal) : isAtom token = true := by
    unfold isAtom
    simpa only [Bool.or_eq_true, decide_eq_true_eq, or_assoc] using kind
  cases h with
  | @var token kind =>
    refine node_of_atom (isAtom_of (.inl kind)) ?_
    rw [atom, kind]
    rfl
  | @label token kind mark =>
    refine node_of_atom (isAtom_of (.inr (.inr (.inl kind)))) ?_
    rw [atom, kind]
    dsimp only
    rw [if_pos mark]
    rfl
  | empty opens closes => exact bind_done.mpr ⟨_, _, acceptTwo?_some.mpr ⟨rfl, opens, closes⟩, rfl⟩
  | data cell same =>
    cases cell with
    | undef => cases same
    | @resource name is =>
      obtain rfl := Option.some.inj same
      rcases (Bool.or_eq_true _ _).mp is with iri | named
      · have kind := of_decide_eq_true iri
        refine node_of_atom (isAtom_of (.inr (.inl kind))) ?_
        rw [atom, kind]
        rfl
      · obtain ⟨kind, plain⟩ := Bool.and_eq_true_iff.mp named
        have kind := of_decide_eq_true kind
        refine node_of_atom (isAtom_of (.inr (.inr (.inl kind)))) ?_
        rw [atom, kind]
        dsimp only
        rw [if_neg (by simpa using plain)]
        rfl
    | @literal token value kind reads =>
      obtain rfl := Option.some.inj same
      refine node_of_atom (isAtom_of (.inr (.inr (.inr kind)))) ?_
      rw [atom, kind]
      exact bind_done.mpr ⟨_, _, valued_done.mpr ⟨reads, rfl⟩, rfl⟩
    | @signed sign number value isSign isNumber reads =>
      obtain rfl := Option.some.inj same
      have plain : sign.isSymbol ["["] = false ∧ sign.isSymbol ["("] = false := by
        obtain ⟨text, symbol, member⟩ := (Option.any_eq_true _ _).mp isSign
        unfold Token.isSymbol Token.isPunctuation
        rw [symbol]
        rcases List.mem_pair.mp (List.contains_iff_mem.mp member) with rfl | rfl <;> exact ⟨rfl, rfl⟩
      have other : isAtom sign = false := by
        unfold isAtom
        rw [kind_of_isSymbol isSign]
        rfl
      refine node_of_term plain (bind_done.mpr ⟨none, _, accept?_none.mpr ⟨rfl, other⟩, ?_⟩)
      refine bind_done.mpr ⟨some value, [], ?_, rfl⟩
      refine bind_done.mpr ⟨_, _, acceptTwo?_some.mpr ⟨rfl, isSign, isNumber⟩, ?_⟩
      exact bind_done.mpr ⟨_, _, valued_done.mpr ⟨reads, rfl⟩, rfl⟩

end Reader

/-! ## Written anew -/

/-- **The text by itself is cut into so many tokens**, which write the value. -/
def Rescans {α : Type} (writes : List Token → α → Prop) (a : α) (count : Nat) (text : Text) : Prop :=
  ∃ pieces, IsCut none pieces [] ∧ written pieces = text ∧ (placed .start pieces).length = count ∧
    writes (placed .start pieces) a

namespace Rescans

variable {α β : Type} {writes : List Token → α → Prop} {a : α} {count : Nat} {text : Text}

/-- A text that is one word. -/
theorem word (kind : Token.Kind) (light : text.head?.any Text.isBlank = false)
    (found : Scan.lexeme? none text = some (.token kind, text.length)) (is : writes [⟨kind, text, .start⟩] a) :
    Rescans writes a 1 text := by
  refine ⟨[.word kind text], ⟨⟨light, ?_⟩, trivial⟩, List.append_nil text, rfl, is⟩
  rwa [written_nil, List.append_nil, List.append_nil]

theorem mono {writes' : List Token → β → Prop} {b : β} (h : Rescans writes a count text)
    (imp : ∀ {tokens}, writes tokens a → writes' tokens b) : Rescans writes' b count text := by
  obtain ⟨pieces, cut, whole, length, is⟩ := h
  exact ⟨pieces, cut, whole, length, imp is⟩

end Rescans

/-- A word that has been found is one by itself, wherever it stands. -/
theorem Token.Found.rescans {α : Type} {writes : List Token → α → Prop} {a : α} {token : Token} (found : token.Found)
    (term : token.kind = .iri ∨ token.kind = .prefixedName ∨ token.kind = .literal)
    (is : writes [⟨token.kind, token.text, .start⟩] a) : Rescans writes a 1 token.text := by
  obtain ⟨before, rest, light, found⟩ := found
  exact .word token.kind light (Scan.lexeme?_ending rfl term found) is

/-! ## Cells -/

/-- The open cell is one word. -/
theorem rescans_undef : Rescans IsCell .undef 1 openCell :=
  .word .keyword rfl rfl (.undef rfl)

/-- A sign in front of its number is a token of its own. -/
theorem rescans_signed {sign number : Token} {value : Literal} (found : number.Found)
    (isSign : sign.isSymbol ["+", "-"] = true) (isNumber : number.isNumeric = true)
    (read : Literal.read sign.text number.text = .ok value) :
    Rescans IsCell (.literal value) 2 (sign.text ++ number.text) := by
  obtain ⟨before, rest, light, found⟩ := found
  obtain ⟨mark, member, text⟩ := sign_of_isSymbol isSign
  have kind := Reader.kind_of_isNumeric isNumber
  rw [text] at read ⊢
  rw [kind] at found
  have marks : mark ∈ ['+', '-', '(', ')', '\x7b', '\x7d'] := List.mem_append_left _ member
  have away : Text.isBlank mark = false ∧ joinsWord mark = false := by
    rcases List.mem_pair.mp member with rfl | rfl <;> exact ⟨rfl, rfl⟩
  refine ⟨[.word .punctuation [mark], .word .literal number.text], ?_, ?_, rfl, .signed ?_ ?_ read⟩
  · refine ⟨⟨away.1, lexeme?_mark marks _ _⟩, ⟨light, ?_⟩, trivial⟩
    rw [written_nil, List.append_nil, List.append_nil]
    exact Scan.lexeme?_ending away.2 (.inr (.inr rfl)) found
  · rw [written_cons, written_cons, written_nil, List.append_nil]
    rfl
  · rcases List.mem_pair.mp member with rfl | rfl <;> rfl
  · rw [Token.isNumeric, kind] at isNumber
    exact isNumber

/-- **A cell that has been read is cut into as many tokens again**, and these write it. -/
theorem IsCell.rescans {tokens : List Token} {cell : Cell} (found : ∀ token ∈ tokens, token.Found)
    (h : IsCell tokens cell) : Rescans IsCell cell tokens.length cell.written := by
  cases h with
  | undef => exact rescans_undef
  | @resource name is =>
    have name_ := found name (.head _)
    change Rescans IsCell _ 1 name.resource.written
    rw [resource_written name_ is]
    have term : name.kind = .iri ∨ name.kind = .prefixedName ∨ name.kind = .literal := by
      rcases Reader.kind_of_isResource is with kind | kind
      · exact .inl kind
      · exact .inr (.inl kind)
    exact name_.rescans term (.resource is)
  | @literal token value kind read =>
    change Rescans IsCell _ 1 value.lexical
    rw [read_lexical read]
    exact (found token (.head _)).rescans (.inr (.inr kind)) (.literal kind read)
  | @signed sign number value isSign isNumber read =>
    have number_ := found number (.tail _ (.head _))
    change Rescans IsCell _ 2 value.lexical
    rw [read_numeric number_.ne_nil isNumber read]
    exact rescans_signed number_ isSign isNumber read

/-! ## Nodes -/

/-- A variable is written with one of its two marks. -/
theorem rescans_var {token : Token} (found : token.Found) (kind : token.kind = .var) :
    Rescans IsTerm (.var token.name) 1 ('?' :: token.name) := by
  obtain ⟨before, rest, -, found⟩ := found
  rw [kind] at found
  have rule : Lexeme.var (token.text ++ rest) = some token.text.length := by simpa using Scan.lexeme?_cases found
  have length : ('?' :: token.name).length = token.text.length := by
    have some_ := (var_extent rule).1
    rw [Token.name, List.length_cons, List.length_drop]
    omega
  refine .word .var rfl ?_ (.var rfl)
  rw [length]
  exact Scan.lexeme?_var (var_front rule) none

/-- The label of a blank node is written behind its mark. -/
theorem rescans_label {token : Token} (found : token.Found) (kind : token.kind = .prefixedName)
    (mark : token.hasBlankMark = true) :
    token.text.drop 2 ≠ [] ∧ '_' :: ':' :: token.text.drop 2 = token.text ∧
      Rescans IsTerm (.blank (some (token.text.drop 2))) 1 token.text := by
  have again := found.rescans (.inr (.inl kind)) (show IsTerm [⟨token.kind, token.text, .start⟩] _ from .label kind mark)
  obtain ⟨before, rest, -, found⟩ := found
  rw [kind] at found
  have long := blankLabel_long (Scan.blankLabel_of_mark found mark)
  obtain ⟨label, whole⟩ := List.isPrefixOf_iff_prefix.mp mark
  refine ⟨fun none_ => ?_, ?_, again⟩
  · have short := List.drop_eq_nil_iff.mp none_
    omega
  · rw [← whole]
    rfl

/-- Empty brackets are two symbols. -/
theorem rescans_empty : Rescans IsTerm (.blank none) 2 ['[', ']'] :=
  ⟨[.word .punctuation ['['], .word .punctuation [']']], ⟨⟨rfl, rfl⟩, ⟨rfl, rfl⟩, trivial⟩, rfl, rfl, .empty rfl rfl⟩

/-- **A term that has been read is cut into as many tokens again**, and these write it. -/
theorem IsTerm.rescans {tokens : List Token} {node : Node} {text : Text} (found : ∀ token ∈ tokens, token.Found)
    (h : IsTerm tokens node) (written : node.written? = some text) : Rescans IsTerm node tokens.length text := by
  cases h with
  | @var token kind =>
    obtain rfl := Option.some.inj written
    exact rescans_var (found token (.head _)) kind
  | @data _ cell _ is same =>
    have again := is.rescans found
    cases cell with
    | undef => cases same
    | resource name =>
      obtain rfl := Option.some.inj same
      obtain rfl := Option.some.inj written
      exact again.mono fun is => .data is rfl
    | literal term =>
      obtain rfl := Option.some.inj same
      obtain rfl := Option.some.inj written
      exact again.mono fun is => .data is rfl
  | @label token kind mark =>
    obtain ⟨some_, whole, again⟩ := rescans_label (found token (.head _)) kind mark
    have shown : (Node.blank (some (token.text.drop 2))).written? = some token.text := by
      rw [Node.written?, Option.getD_some, if_neg (by simpa using some_), whole]
    obtain rfl := Option.some.inj (shown.symm.trans written)
    exact again
  | empty opens closes =>
    obtain rfl := Option.some.inj written
    exact rescans_empty

/-! ## Read again -/

/-- **The written term is read again as the value**: under any limits that admit its length and two tokens it has
tokens, and the reader takes them all. -/
def ReadAgain {α : Type} (reader : Reader α) (a : α) (text : Text) : Prop :=
  ∀ limits : Limits, text.length ≤ limits.maxInputLength → 2 ≤ limits.maxTokens →
    ∃ tokens, tokenize limits text = .ok tokens ∧ reader.read (Token.beforeEnd tokens).1 = .done a []

theorem Rescans.readAgain {α : Type} {writes : List Token → α → Prop} {a : α} {count : Nat} {text : Text}
    {reader : Reader α} (h : Rescans writes a count text) (few : count ≤ 2)
    (back : ∀ {tokens}, writes tokens a → reader.read tokens = .done a []) : ReadAgain reader a text := by
  intro limits short enough
  obtain ⟨pieces, cut, rfl, rfl, is⟩ := h
  refine ⟨_, tokenize_eq_ok.mpr ⟨short, pieces, cut, rfl, Nat.le_trans few enough, rfl⟩, ?_⟩
  rw [beforeEnd_placed cut]
  exact back is

/-- The words of a cut are no longer than its text. -/
theorem length_flatMap_placed (position : Position) (pieces : List Piece) :
    ((placed position pieces).flatMap Token.text).length ≤ (written pieces).length := by
  induction pieces generalizing position with
  | nil => exact Nat.le_refl 0
  | cons piece pieces ih =>
    have further := ih (position.after piece.text)
    rw [written_cons, List.length_append]
    cases piece with
    | blank c => exact Nat.le_add_left_of_le further
    | comment text => exact Nat.le_add_left_of_le further
    | word kind text =>
      rw [placed_word, List.flatMap_cons, List.length_append]
      exact Nat.add_le_add_left further _

/-- What is written for a cell is as long as its tokens. -/
theorem IsCell.length_written {tokens : List Token} {cell : Cell} (found : ∀ token ∈ tokens, token.Found)
    (h : IsCell tokens cell) : cell.written.length = (tokens.flatMap Token.text).length := by
  cases h with
  | @undef word spells =>
    rw [List.flatMap_singleton, Token.length_of_spells_undef spells]
    rfl
  | @resource name is =>
    rw [List.flatMap_singleton, Cell.written, resource_written (found name (.head _)) is]
  | @literal token value kind read =>
    rw [List.flatMap_singleton, Cell.written, Literal.written, read_lexical read]
  | @signed sign number value isSign isNumber read =>
    have number_ := found number (.tail _ (.head _))
    rw [List.flatMap_cons, List.flatMap_singleton, Cell.written, Literal.written,
      read_numeric number_.ne_nil isNumber read]

/-- What is written for a term is as long as its tokens. -/
theorem IsTerm.length_written {tokens : List Token} {node : Node} {text : Text} (found : ∀ token ∈ tokens, token.Found)
    (h : IsTerm tokens node) (written : node.written? = some text) :
    text.length ≤ (tokens.flatMap Token.text).length := by
  cases h with
  | @var token kind =>
    have some_ := List.length_pos_iff.mpr (found token (.head _)).ne_nil
    obtain rfl := Option.some.inj written
    rw [List.flatMap_singleton, List.length_cons, Token.name, List.length_drop]
    omega
  | @data _ cell _ is same =>
    rw [← is.length_written found]
    cases cell with
    | undef => cases same
    | resource name =>
      obtain rfl := Option.some.inj same
      obtain rfl := Option.some.inj written
      exact Nat.le_refl _
    | literal term =>
      obtain rfl := Option.some.inj same
      obtain rfl := Option.some.inj written
      exact Nat.le_refl _
  | @label token kind mark =>
    obtain ⟨some_, whole, -⟩ := rescans_label (found token (.head _)) kind mark
    rw [Node.written?, Option.getD_some, if_neg (by simpa using some_), whole] at written
    obtain rfl := Option.some.inj written
    rw [List.flatMap_singleton]
  | @empty opening closing opens closes =>
    have first := List.length_pos_iff.mpr (found opening (.head _)).ne_nil
    have second := List.length_pos_iff.mpr (found closing (.tail _ (.head _))).ne_nil
    obtain rfl := Option.some.inj written
    rw [List.flatMap_cons, List.flatMap_singleton, List.length_append]
    change 2 ≤ _
    omega

theorem IsCell.length_le_two {tokens : List Token} {cell : Cell} (h : IsCell tokens cell) : tokens.length ≤ 2 := by
  cases h <;> simp

theorem IsTerm.length_le_two {tokens : List Token} {node : Node} (h : IsTerm tokens node) : tokens.length ≤ 2 := by
  cases h with
  | data cell => exact cell.length_le_two
  | _ => simp

/-- **Each term and each cell that is read anywhere in a text is read again from what is written for it**, which is no
longer than the text. -/
theorem readAgain_of_tokenize {limits : Limits} {text : Text} {tokens here : List Token}
    (h : tokenize limits text = .ok tokens) (place : here <:+ (Token.beforeEnd tokens).1) :
    (∀ depth node rest term, (Reader.node depth).read here = .done node rest → node.written? = some term →
      term.length ≤ text.length ∧ ∀ depth', ReadAgain (Reader.node depth') node term) ∧
    (∀ cell rest, Reader.cell.read here = .done cell rest →
      cell.written.length ≤ text.length ∧ ReadAgain Reader.cell cell cell.written) := by
  obtain ⟨-, pieces, cut, rfl, -, rfl⟩ := tokenize_eq_ok.mp h
  rw [beforeEnd_placed cut] at place
  change here <:+ placed .start pieces at place
  have found {taken rest : List Token} (whole : here = taken ++ rest) : ∀ token ∈ taken, token.Found :=
    fun token member => found_of_mem cut (place.subset (whole ▸ List.mem_append_left _ member))
  have short {taken rest : List Token} (whole : here = taken ++ rest) :
      (taken.flatMap Token.text).length ≤ (written pieces).length := by
    refine Nat.le_trans ?_ (length_flatMap_placed .start pieces)
    obtain ⟨front, behind⟩ := place
    rw [← behind, whole, List.flatMap_append, List.flatMap_append, List.length_append, List.length_append]
    omega
  refine ⟨fun depth node rest term read shown => ?_, fun cell rest read => ?_⟩
  · obtain ⟨taken, whole, is⟩ := Reader.node_writes read shown
    refine ⟨Nat.le_trans (is.length_written (found whole) shown) (short whole), fun depth' => ?_⟩
    exact (is.rescans (found whole) shown).readAgain is.length_le_two Reader.node_back
  · obtain ⟨taken, whole, is⟩ := Reader.cell_writes read
    refine ⟨Nat.le_trans (Nat.le_of_eq (is.length_written (found whole))) (short whole), ?_⟩
    refine (is.rescans (found whole)).readAgain is.length_le_two fun {again} is => ?_
    have back := @Reader.cell_back again [] cell is
    rwa [List.append_nil] at back

/-- The rule at a variable with the other mark. -/
theorem readAgain_of_tokenize_dollar :
    tokenize .standard "$x".toList = .ok [⟨.var, "$x".toList, .start⟩, ⟨.eof, [], ⟨1, 3, 2⟩⟩] ∧
      [⟨.var, "$x".toList, .start⟩] <:+
        (Token.beforeEnd [⟨.var, "$x".toList, .start⟩, ⟨.eof, [], ⟨1, 3, 2⟩⟩]).1 ∧
      (Reader.node none).read [⟨.var, "$x".toList, .start⟩] = .done (.var ['x']) [] ∧
      ∀ depth, ReadAgain (Reader.node depth) (.var ['x']) "?x".toList := by
  have tokens : tokenize .standard "$x".toList = .ok [⟨.var, "$x".toList, .start⟩, ⟨.eof, [], ⟨1, 3, 2⟩⟩] := rfl
  have place : [⟨.var, "$x".toList, .start⟩] <:+
      (Token.beforeEnd [⟨.var, "$x".toList, .start⟩, ⟨.eof, [], ⟨1, 3, 2⟩⟩]).1 := List.suffix_refl _
  have read : (Reader.node none).read [⟨.var, "$x".toList, .start⟩] = .done (.var ['x']) [] := rfl
  exact ⟨tokens, place, read, ((readAgain_of_tokenize tokens place).1 none _ _ _ read rfl).2⟩

end QuerySignature
