import QuerySignature.Proofs.Binding.Written
import QuerySignature.Proofs.Token.Relaid
import QuerySignature.Proofs.WellFormed.Blocks

/-!
# Proofs/Binding/ReadBack — a block that is written anew is read back

A block may stand anywhere in a query that a text writes, open or not.  Written anew with rows of bindings it is a text
of its own, and this text is read as the block without its open rows, with a row for each row of bindings
(`renderBlock_readBack`).
-/

namespace QuerySignature

open Piece Reader

/-! ## Open cells -/

/-- The word of the open cell renders no other. -/
theorem Rendered.eq_openCell_iff {cell : Cell} {text : Text} (h : Rendered cell text) :
    text = openCell ↔ cell = .undef := by
  cases h with
  | undef => simp
  | iri => exact ⟨nofun, nofun⟩
  | literal => exact ⟨nofun, nofun⟩

/-- Each item can be written if all can be. -/
theorem exists_of_mapM {α β ε : Type} {write : α → Except ε β} {list : List α} {found : List β}
    (h : list.mapM write = .ok found) : ∀ a ∈ list, ∃ b, write a = .ok b := by
  have each := (forall₂_of_mapM h).imp fun a b written => (⟨⟨b, written⟩, written⟩ : (∃ b, write a = .ok b) ∧ _)
  exact ((List.forall₂_and_left _ _).mp each).1

/-- The variable is left open by the row of bindings: the word of the open cell is written for it. -/
def LeavesOpen (row : Row) (name : Text) : Prop :=
  (renderBinding name (Json.lookup name row)).outcome = .ok openCell

/-- A cell that can be written is open exactly if the word of the open cell is written. -/
theorem denoted_eq_undef_iff {row : Row} {name text : Text}
    (h : (renderBinding name (Json.lookup name row)).outcome = .ok text) :
    Cell.denoted (Json.lookup name row) = .undef ↔ LeavesOpen row name := by
  rw [LeavesOpen, h, ← (rendered_of_renderBinding h).eq_openCell_iff]
  exact ⟨congrArg _, Except.ok.inj⟩

/-- **The row that bindings denote is open** exactly if there are variables and each is left open. -/
theorem isOpenRow_denotedRow {vars : List Text} {row : Row} {texts : List Text} (h : rowCells vars row = .ok texts) :
    isOpenRow (denotedRow vars row) = true ↔ vars ≠ [] ∧ ∀ name ∈ vars, LeavesOpen row name := by
  have cells : (∀ name ∈ vars, Cell.denoted (Json.lookup name row) = .undef) ↔ ∀ name ∈ vars, LeavesOpen row name := by
    refine forall₂_congr fun name member => ?_
    obtain ⟨text, written⟩ := exists_of_mapM h name member
    exact denoted_eq_undef_iff written
  rw [← cells]
  simp [isOpenRow, denotedRow]

/-! ## Blocks -/

/-- **The block filled with rows of bindings**, from the start of a text: its rows but the open ones, then the row
that each row of bindings denotes. -/
def Values.filled (block : Values) (rows : List Row) (text : Text) : Values :=
  ⟨block.vars, Slot.filledRows ⟨block, rows⟩, ⟨0, text.length⟩⟩

/-- No row that is kept is open. -/
theorem Values.isOpen_filled (block : Values) (rows : List Row) (text : Text) :
    (block.filled rows text).isOpen = rows.any fun row => isOpenRow (denotedRow block.vars row) := by
  have kept : (block.rows.filter (!isOpenRow ·)).any isOpenRow = false := by simp
  rw [Values.isOpen, Values.filled, Slot.filledRows, List.any_append, kept, Bool.false_or, List.any_map]
  rfl

/-- **The text is read as the block filled with the rows.** -/
structure Values.ReadBack (block : Values) (rows : List Row) (text : Text) : Prop where
  /-- Under limits that it does not reach it has tokens, and the reader of blocks takes them all. -/
  read : ∀ limits : Limits,
    (∀ reached value maximum position, tokenize limits text ≠ .error (.ceiling reached value maximum position)) →
      ∃ tokens, tokenize limits text = .ok tokens ∧
        Reader.values.read (Token.beforeEnd tokens).1 = .done (block.filled rows text) []
  /-- The cells of the new rows are those that are written for the variables. -/
  cells : ∀ row ∈ rows, ∀ name ∈ block.vars, ∃ cell,
    (renderBinding name (Json.lookup name row)).outcome = .ok cell ∧
      (Cell.denoted (Json.lookup name row)).StandsAlone cell
  isOpen_iff : (block.filled rows text).isOpen = true ↔
    block.vars ≠ [] ∧ ∃ row ∈ rows, ∀ name ∈ block.vars, LeavesOpen row name

/-- **A block of a query is read back** once it is written anew. -/
theorem renderBlock_readBack {limits : Limits} {text written : Text} {query : Query} {block : Values}
    {rows : List Row} (parsed : parse limits text = .ok query) (stands : query.tree.Has block.tree)
    (rendered : (renderBlock block rows).outcome = .ok written) : block.ReadBack rows written := by
  obtain ⟨texts, cells, -⟩ := @rendered_eq_ok ⟨block, rows⟩ written rendered
  have rowTexts := exists_of_mapM cells
  refine ⟨fun limits free => ?_, fun row member name declared => ?_, ?_⟩
  · obtain ⟨span, tokens, found, is⟩ := parse_stood parsed stands
    obtain ⟨pieces, rfl, cut, writes⟩ :=
      @isWritten_of_rendered tokens ⟨⟨block.vars, block.rows, span⟩, rows⟩ written found is rendered
    have alone := cut none []
    refine ⟨_, tokenize_of_isCut alone free, ?_⟩
    have back : valuesContent.read (placed .start pieces ++ []) = _ := valuesContent_back (writes .start)
    rw [List.append_nil, Position.start_offset, Int.zero_add] at back
    rw [beforeEnd_placed alone]
    exact back
  · obtain ⟨texts, written⟩ := rowTexts row member
    obtain ⟨text, written⟩ := exists_of_mapM written name declared
    exact ⟨text, written, (rendered_of_renderBinding written).standsAlone⟩
  · rw [Values.isOpen_filled, List.any_eq_true]
    constructor
    · rintro ⟨row, member, opened⟩
      obtain ⟨texts, written⟩ := rowTexts row member
      obtain ⟨declared, each⟩ := (isOpenRow_denotedRow written).mp opened
      exact ⟨declared, row, member, each⟩
    · rintro ⟨declared, row, member, each⟩
      obtain ⟨texts, written⟩ := rowTexts row member
      exact ⟨row, member, (isOpenRow_denotedRow written).mpr ⟨declared, each⟩⟩

/-- A block with a row of its own and an open one. -/
def keptBlock : Values := ⟨["x".toList], [[.resource (.iri ['a'])], [.undef]], ⟨6, 29⟩⟩

/-- In a test the block is read back with its own row and one for a literal. -/
theorem renderBlock_readBack_ask :
    ∃ query, parse .standard "ASK \x7b VALUES ?x \x7b <a> UNDEF \x7d \x7d".toList = .ok query ∧
      query.tree.Has keptBlock.tree ∧
      keptBlock.ReadBack
        [[("x".toList, .object [("type".toList, .string "literal".toList), ("value".toList, .string ['b'])])]]
        "VALUES ?x \x7b <a> \"b\" \x7d".toList := by
  have parsed : parse .standard "ASK \x7b VALUES ?x \x7b <a> UNDEF \x7d \x7d".toList =
    .ok ⟨[], .ask (.pattern [.values keptBlock]) .empty none⟩ := rfl
  have stands : (Query.tree ⟨[], .ask (.pattern [.values keptBlock]) .empty none⟩).Has keptBlock.tree :=
    @Tree.Has.child _ (Group.tree (.pattern [.values keptBlock])) _ (.head _) (.child (.head _) (.root _))
  exact ⟨_, parsed, stands, renderBlock_readBack parsed stands rfl⟩

end QuerySignature
