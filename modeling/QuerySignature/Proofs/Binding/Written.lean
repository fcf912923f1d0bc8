import QuerySignature.Proofs.Binding.Single
import QuerySignature.Proofs.Binding.Splice

/-!
# Proofs/Binding/Written — blocks that are written are read back

A block is put together from texts that scan as its cells: cells stand between spaces (`Scans.joined`), rows of
several cells and headers of several variables in brackets (`Scans.bracketed`).  So the text of a block is cut
into the tokens of that block, whatever stands around it (`isWritten_writtenBlock`).
-/

namespace QuerySignature

open Piece Lexeme Reader

variable {α β : Type}

/-! ## Putting texts together -/

namespace Scans

variable {writes : List Token → α → Prop} {a : α} {text : Text}

/-- **Texts between spaces** scan as a sequence. -/
theorem joined {list : List α} {texts : List Text} (h : List.Forall₂ (Scans writes) list texts) :
    Scans (IsSequence writes) list (Text.joined [' '] texts) := by
  induction h with
  | nil => exact ⟨[], rfl, fun _ _ => trivial, fun _ => .nil⟩
  | @cons a text list texts first others ih =>
    obtain ⟨pieces, whole, cut, is⟩ := first
    cases others with
    | nil =>
      refine ⟨pieces, whole.trans (Text.joined_singleton _ _).symm, cut, fun position => ?_⟩
      rw [← List.append_nil (placed position pieces)]
      exact .cons (is position) .nil
    | cons =>
      obtain ⟨behind, whole', cut', are⟩ := ih
      rw [Text.joined_cons_cons, ← whole, ← whole']
      refine ⟨pieces ++ .blank ' ' :: behind, ?_, fun free stop => ?_, fun position => ?_⟩
      · rw [written_append, written_cons, List.append_assoc]
        rfl
      · exact isCut_append.mpr ⟨cut free (stops_space _), rfl, cut' rfl stop⟩
      · rw [placed_append, placed_blank]
        exact .cons (is position) (are _)

/-- A text in brackets. -/
theorem bracketed {writes' : List Token → β → Prop} {b : β} (h : Scans writes a text)
    (is : ∀ {opening closing tokens}, opening.isSymbol ["("] = true → writes tokens a →
      closing.isSymbol [")"] = true → writes' (opening :: (tokens ++ [closing])) b) :
    Scans writes' b ('(' :: text ++ [')']) := by
  obtain ⟨pieces, whole, cut, writes⟩ := h
  refine ⟨.word .punctuation ['('] :: (pieces ++ [.word .punctuation [')']]), ?_, fun free stop => ?_,
    fun position => ?_⟩
  · rw [written_cons, written_append, whole]
    rfl
  · refine ⟨⟨rfl, lexeme?_mark (by decide) _ _⟩, isCut_append.mpr ⟨cut rfl (stops_bracket _), ?_, trivial⟩⟩
    exact ⟨rfl, lexeme?_mark (by decide) _ _⟩
  · rw [placed_word, placed_append]
    exact is rfl (writes _) rfl

/-- A row of cells in brackets. -/
theorem row {row : List Cell} {texts : List Text} (h : List.Forall₂ (Scans IsCell) row texts) :
    Scans (IsRow row.length) row ('(' :: Text.joined [' '] texts ++ [')']) :=
  (joined h).bracketed fun opens cells closes => .cells opens cells closes rfl

end Scans

/-! ## Headers -/

/-- A text is the name of a variable. -/
def IsVarName (name : Text) : Prop :=
  name ≠ [] ∧ name.all Text.isWord = true

/-- A variable that has been read has a name. -/
theorem isVarName_of_found {token : Token} (found : token.Found) (kind : token.kind = .var) :
    IsVarName token.name := by
  obtain ⟨before, rest, -, at_⟩ := found
  rw [kind] at at_
  have rule : var (token.text ++ rest) = some token.text.length := by simpa using Scan.lexeme?_cases at_
  unfold Token.name
  obtain ⟨c, text, whole⟩ := List.exists_cons_of_length_pos (Scan.lexeme?_extent at_).1
  rw [whole, List.cons_append, var] at rule
  rw [whole, List.drop_succ_cons, List.drop_zero]
  split at rule
  · obtain ⟨n, found, length⟩ := Option.map_eq_some_iff.mp rule
    obtain ⟨whole, pos⟩ := run?_eq_some.mp found
    obtain rfl : n = text.length := Nat.succ.inj length
    exact ⟨List.length_pos_iff.mp pos, (run_eq_length.mp whole).1⟩
  · cases rule

/-- A variable in front of a stop. -/
theorem scans_name {name : Text} (h : IsVarName name) : Scans Reader.IsName name ('?' :: name) := by
  obtain ⟨some_, all⟩ := h
  refine .word .var rfl (fun {before y} _ stop => ?_) fun position => ⟨_, rfl, rfl, rfl⟩
  have whole : run Text.isWord (name ++ y) = name.length := by
    rw [run_stop name (stop.head (by decide) (by decide)), run_whole all]
  have rule : var ('?' :: (name ++ y)) = some (name.length + 1) := by
    rw [var, if_pos (.inl rfl), run?_eq_some.mpr ⟨whole, ?_⟩]
    · rfl
    · exact List.length_pos_iff.mpr some_
  obtain ⟨none₁, none₂, none₃, none₄, none₅⟩ := @Scan.early_none '?' (by decide) (name ++ y)
  have none₆ : prefixedName ('?' :: (name ++ y)) = none := prefixedName_of_ne (by decide) (by decide) _
  rw [List.cons_append, Scan.lexeme?, none₁, none₂, none₃, none₄, none₅, none₆, rule]
  rfl

/-- Tokens write the variables of a header in brackets. -/
inductive IsHeader : List Token → List Text → Prop where
  | vars {left right : Token} {vars : List Token} : left.isSymbol ["("] = true →
      (∀ var ∈ vars, var.kind = .var) → right.isSymbol [")"] = true →
      IsHeader (left :: (vars ++ [right])) (vars.map Token.name)

theorem scans_header {vars : List Text} (h : ∀ name ∈ vars, IsVarName name) :
    Scans IsHeader vars ('(' :: Text.joined [' '] (vars.map ('?' :: ·)) ++ [')']) := by
  have names : List.Forall₂ (Scans IsName) vars (vars.map ('?' :: ·)) := by
    rw [List.forall₂_map_right_iff, List.forall₂_same]
    exact fun name member => scans_name (h name member)
  refine (Scans.joined names).bracketed fun opens sequence closes => ?_
  obtain ⟨areVars, same⟩ := isName_sequence sequence
  rw [same]
  exact .vars opens areVars closes

/-! ## Blocks -/

/-- **A text is read as a block** wherever it stands. -/
def IsWritten (vars : List Text) (rows : List (List Cell)) (text : Text) : Prop :=
  ∃ pieces, written pieces = text ∧ (∀ before rest, IsCut before pieces rest) ∧
    ∀ position, IsBlock (placed position pieces)
      ⟨vars, rows, ⟨position.offset, position.offset + (written pieces).length⟩⟩

/-- The keyword of a block in front of a space. -/
theorem lexeme?_values (before : Option Char) (rest : Text) :
    Scan.lexeme? before ("VALUES".toList ++ ' ' :: rest) = some (.token .keyword, 6) :=
  rfl

/-- The pieces of a block, from those of its header and of its rows. -/
def blockPieces (header rows : List Piece) : List Piece :=
  .word .keyword "VALUES".toList ::
    (.blank ' ' :: (header ++ .blank ' ' :: .word .punctuation ['\x7b'] :: .blank ' ' :: (rows ++ [.blank ' '])) ++
      [.word .punctuation ['\x7d']])

/-- A header and rows that scan make up a block. -/
theorem isWritten_of_scans {isHeader : List Token → α → Prop} {isRows : List Token → β → Prop} {header : α} {rows : β}
    {front inner : Text} {vars : List Text} {cells : List (List Cell)} (first : Scans isHeader header front)
    (second : Scans isRows rows inner)
    (is : ∀ {keyword opening closing names tokens}, keyword.spells ["VALUES"] = true → isHeader names header →
      opening.isSymbol ["\x7b"] = true → isRows tokens rows → closing.isSymbol ["\x7d"] = true →
      ∃ span, IsBlock (keyword :: (names ++ opening :: (tokens ++ [closing]))) ⟨vars, cells, span⟩) :
    IsWritten vars cells ("VALUES ".toList ++ front ++ " \x7b ".toList ++ inner ++ " \x7d".toList) := by
  obtain ⟨names, rfl, cut, isNames⟩ := first
  obtain ⟨tokens, rfl, cut', areRows⟩ := second
  refine ⟨blockPieces names tokens, ?_, fun before rest => ?_, fun position => ?_⟩
  · simp [blockPieces, Piece.text]
  · simp only [blockPieces, List.cons_append, List.append_assoc, List.nil_append]
    refine ⟨⟨rfl, lexeme?_values _ _⟩, rfl, isCut_append.mpr ⟨cut rfl (stops_space _), rfl, ?_, rfl, ?_⟩⟩
    · exact ⟨rfl, lexeme?_mark (by decide) _ _⟩
    · refine isCut_append.mpr ⟨cut' rfl (stops_space _), rfl, ⟨rfl, lexeme?_mark (by decide) _ _⟩, trivial⟩
  · have block : ∃ span, IsBlock (placed position (blockPieces names tokens)) ⟨vars, cells, span⟩ := by
      simp only [blockPieces, List.cons_append, List.append_assoc, List.nil_append, placed_word, placed_blank,
        placed_append, placed_nil]
      exact is rfl (isNames _) rfl (areRows _) rfl
    obtain ⟨span, block⟩ := block
    obtain rfl : span = _ := block.span_placed
    exact block

/-- Rows of one cell are written without brackets. -/
theorem forall₂_flatten {rows : List (List Cell)} {texts : List (List Text)}
    (h : List.Forall₂ (List.Forall₂ (Scans IsCell)) rows texts) (short : ∀ row ∈ rows, row.length = 1) :
    List.Forall₂ (Scans IsShortRow) rows texts.flatten := by
  induction h with
  | nil => exact .nil
  | @cons row text rows texts first _ ih =>
    rw [List.forall_mem_cons] at short
    obtain ⟨cell, rfl⟩ := List.length_eq_one_iff.mp short.1
    obtain _ | ⟨cell, _ | _⟩ := first
    exact .cons (cell.mono .cell) (ih short.2)

/-- **A block that is written is read back**: texts that scan as the cells of its rows, under names for its
header, make up a text that is read as the block. -/
theorem isWritten_writtenBlock {vars : List Text} {rows : List (List Cell)} {texts : List (List Text)}
    (names : ∀ name ∈ vars, IsVarName name) (cells : List.Forall₂ (List.Forall₂ (Scans IsCell)) rows texts)
    (width : ∀ row ∈ rows, row.length = vars.length) : IsWritten vars rows (writtenBlock vars texts) := by
  unfold writtenBlock
  dsimp only
  split
  · next name =>
    have sequence := Scans.joined (forall₂_flatten cells width)
    refine isWritten_of_scans (scans_name (names name (.head _))) sequence ?_
    rintro keyword opening closing _ tokens spells ⟨var, rfl, isVar, rfl⟩ opens rows closes
    exact ⟨_, .short spells isVar opens rows closes⟩
  · have sequence : Scans (IsSequence (IsRow vars.length)) rows
        (Text.joined [' '] (texts.map fun row => '(' :: Text.joined [' '] row ++ [')'])) := by
      refine Scans.joined (List.forall₂_map_right_iff.mpr ?_)
      refine ((List.forall₂_and_left _ _).mpr ⟨width, cells⟩).imp fun row text both => ?_
      rw [← both.1]
      exact .row both.2
    refine isWritten_of_scans (scans_header names) sequence ?_
    rintro keyword opening closing _ tokens spells ⟨isLeft, areVars, isRight⟩ opens rows closes
    rw [List.length_map] at rows
    have block := IsBlock.long spells isLeft areVars isRight opens rows closes
    refine ⟨⟨keyword.position.offset, closing.stop⟩, ?_⟩
    simpa using block

/-! ## Slots that are filled -/

/-- The row that a row of bindings denotes. -/
def denotedRow (vars : List Text) (row : Row) : List Cell :=
  vars.map fun name => .denoted (Json.lookup name row)

/-- **The rows of a slot that is filled**: those of its block but the open ones, then one for each row of
bindings. -/
def Slot.filledRows (slot : Slot) : List (List Cell) :=
  slot.block.rows.filter (!isOpenRow ·) ++ slot.rows.map (denotedRow slot.block.vars)

/-- Each item of a sequence is written by some of its tokens. -/
theorem IsSequence.of_mem {item : List Token → α → Prop} {tokens : List Token} {list : List α} {a : α}
    (h : IsSequence item tokens list) (member : a ∈ list) : ∃ taken ⊆ tokens, item taken a := by
  induction h with
  | nil => cases member
  | cons first _ ih =>
    rcases List.mem_cons.mp member with rfl | member
    · exact ⟨_, List.subset_append_left _ _, first⟩
    · obtain ⟨taken, inside, is⟩ := ih member
      exact ⟨taken, List.subset_append_of_subset_right _ inside, is⟩

/-- Cells that have been read scan as themselves. -/
theorem scans_of_cells {tokens : List Token} {row : List Cell} (found : ∀ token ∈ tokens, token.Found)
    (h : IsSequence IsCell tokens row) : List.Forall₂ (Scans IsCell) row (row.map Cell.written) := by
  rw [List.forall₂_map_right_iff, List.forall₂_same]
  intro cell member
  obtain ⟨taken, inside, is⟩ := h.of_mem member
  exact scans_of_isCell (fun token member => found token (inside member)) is

/-- **What a block holds** once it has been read: names, and rows of cells as wide as its header. -/
theorem IsBlock.scans {tokens : List Token} {block : Values} (found : ∀ token ∈ tokens, token.Found)
    (h : IsBlock tokens block) : (∀ name ∈ block.vars, IsVarName name) ∧
      ∀ row ∈ block.rows, row.length = block.vars.length ∧
        List.Forall₂ (Scans IsCell) row (row.map Cell.written) := by
  cases h with
  | @short keyword var opening closing tokens rows spells isVar opens sequence closes =>
    refine ⟨fun name member => ?_, fun row member => ?_⟩
    · rw [List.mem_singleton.mp member]
      exact isVarName_of_found (found var (by simp)) isVar
    · obtain ⟨taken, inside, ⟨cell⟩⟩ := sequence.of_mem member
      refine ⟨rfl, .cons (scans_of_isCell (fun token member => found token ?_) cell) .nil⟩
      have := inside member
      simp [this]
  | @long keyword left right opening closing vars tokens rows spells isLeft areVars isRight opens sequence closes =>
    refine ⟨fun name member => ?_, fun row member => ?_⟩
    · obtain ⟨var, declared, rfl⟩ := List.mem_map.mp member
      exact isVarName_of_found (found var (by simp [declared])) (areVars var declared)
    · obtain ⟨taken, inside, is⟩ := sequence.of_mem member
      cases is with
      | @cells opening closing tokens row opens cells closes long =>
        refine ⟨long.trans (List.length_map _).symm, scans_of_cells (fun token member => found token ?_) cells⟩
        have := inside (List.mem_cons_of_mem _ (List.mem_append_left _ member))
        simp [this]

/-- Items that can all be written. -/
theorem forall₂_of_mapM {ε : Type} {write : α → Except ε β} {list : List α} {found : List β}
    (h : list.mapM write = .ok found) : List.Forall₂ (fun a b => write a = .ok b) list found := by
  induction list generalizing found with
  | nil =>
    obtain rfl := Except.ok.inj h
    exact .nil
  | cons a list ih =>
    rw [List.mapM_cons] at h
    cases first : write a with
    | error _ =>
      rw [first] at h
      cases h
    | ok b =>
      cases others : list.mapM write with
      | error _ =>
        rw [first, others] at h
        cases h
      | ok bs =>
        rw [first, others] at h
        obtain rfl := Except.ok.inj h
        exact .cons first (ih others)

/-- The texts of a row of bindings scan as the row that it denotes. -/
theorem scans_rowCells {vars : List Text} {row : Row} {texts : List Text} (h : rowCells vars row = .ok texts) :
    List.Forall₂ (Scans IsCell) (denotedRow vars row) texts := by
  rw [denotedRow, List.forall₂_map_left_iff]
  exact (forall₂_of_mapM h).imp fun name text rendered => (rendered_of_renderBinding rendered).scans

/-- What fills a slot is a block of its kept rows and of the texts of its bindings. -/
theorem rendered_eq_ok {slot : Slot} {text : Text} (h : slot.rendered = .ok text) :
    ∃ texts, slot.rows.mapM (rowCells slot.block.vars) = .ok texts ∧
      text = writtenBlock slot.block.vars (keptRows slot.block ++ texts) := by
  unfold Slot.rendered at h
  rw [renderBlock_outcome] at h
  cases cells : slot.rows.mapM (rowCells slot.block.vars) with
  | error error =>
    rw [cells] at h
    cases h
  | ok texts =>
    rw [cells] at h
    exact ⟨texts, rfl, (Except.ok.inj h).symm⟩

/-- **A slot that is filled is read back**, with its kept rows and those that its bindings denote. -/
theorem isWritten_of_rendered {tokens : List Token} {slot : Slot} {text : Text}
    (found : ∀ token ∈ tokens, token.Found) (block : IsBlock tokens slot.block) (rendered : slot.rendered = .ok text) :
    IsWritten slot.block.vars slot.filledRows text := by
  obtain ⟨names, rows⟩ := block.scans found
  obtain ⟨texts, cells, rfl⟩ := rendered_eq_ok rendered
  refine isWritten_writtenBlock names (List.rel_append ?_ ?_) fun row member => ?_
  · rw [keptRows, List.forall₂_map_right_iff, List.forall₂_same]
    exact fun row member => (rows row (List.mem_of_mem_filter member)).2
  · rw [List.forall₂_map_left_iff]
    exact (forall₂_of_mapM cells).imp fun row text => scans_rowCells
  · rcases List.mem_append.mp member with member | member
    · exact (rows row (List.mem_of_mem_filter member)).1
    · obtain ⟨bindings, -, rfl⟩ := List.mem_map.mp member
      exact List.length_map _

end QuerySignature
