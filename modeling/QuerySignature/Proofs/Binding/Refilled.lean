import QuerySignature.Proofs.Binding.Pieces
import QuerySignature.Proofs.Outcome.Run
import QuerySignature.Proofs.Signature.Like

/-!
# Proofs/Binding/Refilled — a filled text is read as the query with its slots filled

Under `Likeness.filled` a query differs from another in places and in the blocks that were slots.  A filled text
is read as such a query (`applyBindings_refilled`), if no value ends a string in front of which three marks dangle
(`Slot.KeepsOpen`); where one does, what stands between the marks is read as a string (`applyBindings_misread`).
-/

namespace QuerySignature

open Piece Lexeme Reader

/-- **The slot ends no string in front of which three marks dangle**: where three marks open no string among the
tokens in front of it, what fills it closes no long string. -/
def Slot.KeepsOpen (text : Text) (tokens : List Token) (slot : Slot) : Prop :=
  ∀ rendered, slot.rendered = .ok rendered → ∀ token ∈ tokens, ∀ mark ∈ ['"', '\''], token.Dangles text mark →
    token.stop ≤ slot.block.span.start → closes mark rendered = false

theorem keepsOpen_of_slots {text : Text} {tokens : List Token} {slots : List Slot} {edits : List Edit}
    (fills : List.Forall₂ Slot.Fills slots edits) (h : ∀ slot ∈ slots, slot.KeepsOpen text tokens) :
    KeepsOpen text tokens edits := by
  intro token member mark quote dangles
  induction fills with
  | nil => exact fun _ none_ => (List.not_mem_nil none_).elim
  | cons first _ ih =>
    rw [List.forall_mem_cons] at h
    refine List.forall_mem_cons.mpr ⟨fun front => ?_, ih h.2⟩
    rw [first.1] at front
    exact h.1 _ first.2 token member mark quote dangles front

/-- What fills slots is determined by them. -/
theorem Filling.eq_ok {slots : List Slot} {edits : List Edit} {outcome : Except RenderingFault (List Edit)}
    (h : Filling slots outcome) (fills : List.Forall₂ Slot.Fills slots edits) : outcome = .ok edits := by
  cases h with
  | done others =>
    have unique : Relator.RightUnique Slot.Fills := by
      rintro slot ⟨span, text⟩ ⟨span', text'⟩ ⟨place, rendered⟩ ⟨place', rendered'⟩
      obtain rfl := place.trans place'.symm
      obtain rfl := Except.ok.inj (rendered.symm.trans rendered')
      rfl
    rw [List.right_unique_forall₂' unique others fills]
  | @refused front back slot error _ rendered =>
    have rest := List.forall₂_drop front.length fills
    rw [List.drop_left] at rest
    generalize edits.drop front.length = others at rest
    cases rest with
    | cons first => cases rendered.symm.trans first.2

/-- A text whose slots can all be filled is filled. -/
theorem applyBindings_eq_ok {limits : Limits} {text : Text} {bindings : Json} {query : Query} {documents : List Json}
    {slots : List Slot} {edits : List Edit} (parsed : parse limits text = .ok query)
    (given : bindings.documents? = some documents)
    (among : SlotsAmong (loadedSets (BindingSet.ofDocuments documents)) query.blocks slots)
    (fills : List.Forall₂ Slot.Fills slots edits) :
    (applyBindings limits text bindings).map Prod.fst = .ok (spliced text 0 edits) := by
  obtain ⟨_, _, among', filling, result, -⟩ := applyBindings_spliced parsed given
  rw [slotsAmong_iff.mp among', ← slotsAmong_iff.mp among] at filling
  rw [result, filling.eq_ok fills]
  rfl

/-- **A filled text is read as the query with its slots filled**: where no slot ends a string that dangles in front
of it and no ceiling is reached, the filled text is a query, which differs from the old one in places and in the
blocks that were slots.  These have lost their open rows and have a row for each row of their bindings, in which
each cell is what its binding denotes.  Outputs and variable groups are the same. -/
theorem applyBindings_refilled {limits : Limits} {text text' : Text} {bindings : Json} {query : Query}
    {documents : List Json} {tokens : List Token} (parsed : parse limits text = .ok query)
    (tokenized : tokenize limits text = .ok tokens) (given : bindings.documents? = some documents)
    (filled : (applyBindings limits text bindings).map Prod.fst = .ok text')
    (keeps : ∀ block ∈ query.blocks, ∀ slot,
      block.HasSlot (loadedSets (BindingSet.ofDocuments documents)) slot → slot.KeepsOpen text tokens)
    (free : ∀ reached value maximum position,
      tokenize limits text' ≠ .error (.ceiling reached value maximum position)) :
    ∃ query', parse limits text' = .ok query' ∧
      query.Like (.filled (loadedSets (BindingSet.ofDocuments documents))) query' ∧
      query'.outputs = query.outputs ∧ query'.variableGroups = query.variableGroups := by
  obtain ⟨slots, edits, among, filling, outcome, -⟩ := applyBindings_spliced parsed given
  have blocks := parse_blocks parsed
  have keepsSlots : ∀ slot ∈ slots, slot.KeepsOpen text tokens := by
    intro slot member
    obtain ⟨block, inside, has⟩ := among.exists_block member
    exact keeps block inside slot has
  obtain ⟨short, pieces, cut, rfl, few, read⟩ := parse_eq_ok.mp parsed
  obtain rfl := Except.ok.inj (tokenized.symm.trans (tokenize_eq_ok.mpr ⟨short, pieces, cut, rfl, few, rfl⟩))
  rw [filled] at outcome
  cases edits with
  | error error => cases outcome
  | ok edits =>
    obtain rfl := Except.ok.inj outcome
    have fills := filling.fills
    have shown := blocks_of_read read
    have taken := limits.reader.conserves (placed .start pieces)
    rw [show limits.reader.read (placed .start pieces) = .done query [] from read, Reading.rest, List.append_nil] at taken
    obtain ⟨pieces', fillsPieces, whole⟩ := @exists_fillsPieces _ _ _ _ fills [] none .start pieces
      (limits.reader.steps (placed .start pieces)) (editsStand_of_fills blocks among fills) (limits.reader.sound _)
      (by rw [← filterMap_slot?, slotsAmong_iff.mp among, shown]; rfl) taken.symm cut rfl rfl
      (fun token member => keepsOpen_of_slots fills keepsSlots token (List.mem_append_left _ member))
    rw [List.length_nil, Int.natCast_zero] at whole
    rw [← whole] at free ⊢
    obtain ⟨short', others, -, -, few', same⟩ := tokenize_eq_ok.mp (tokenize_of_isCut fillsPieces.cut free)
    rw [← List.append_inj_left' same rfl] at few'
    obtain ⟨query', read', like⟩ := read_of_respells read (fillsPieces.respells .start)
    exact ⟨query', parse_eq_ok.mpr ⟨short', pieces', fillsPieces.cut, rfl, few', read'⟩, like,
      Query.outputs_of_like like, Query.variableGroups_of_like like⟩

/-! ## Marks that dangle -/

/-- A selection in which three marks dangle in front of a block of one cell. -/
def danglingText (cell : Text) : Text :=
  "SELECT * WHERE \x7b FILTER(''' ') VALUES ?x \x7b ".toList ++ cell ++ " \x7d \x7d".toList

/-- The selection whose block is a slot. -/
def danglingQuery : Query :=
  ⟨[], .select ⟨.everything, .kept⟩
    (.pattern [.filter ⟨"'' ' '".toList, [], []⟩, .values ⟨["x".toList], [[.undef]], ⟨31, 50⟩⟩]) .empty none⟩

/-- One row of bindings, of one variable to a literal. -/
def literalRow (value : String) : Row :=
  [("x".toList, .object [("type".toList, .string "literal".toList), ("value".toList, .string value.toList)])]

/-- The document of the row. -/
def literalDocument (value : String) : Json :=
  .object [("head".toList, .object [("vars".toList, .array [.string "x".toList])]),
    ("results".toList, .object [("bindings".toList, .array [.object (literalRow value)])])]

/-- The slot of the selection with its rows. -/
def danglingSlot (value : String) : Slot :=
  ⟨⟨["x".toList], [[.undef]], ⟨31, 50⟩⟩, [literalRow value]⟩

/-! The marks open no string, for no three follow them. -/

theorem parse_dangling : parse .standard (danglingText openCell) = .ok danglingQuery := rfl

theorem slots_dangling (value : String) :
    SlotsAmong (loadedSets (BindingSet.ofDocuments [literalDocument value])) danglingQuery.blocks
      [danglingSlot value] := slotsAmong_iff.mpr rfl

theorem rendered_dangling (value : String) : (danglingSlot value).rendered =
    .ok ("VALUES ?x \x7b ".toList ++ renderString value.toList ++ " \x7d".toList) := by
  change Except.ok ("VALUES ?".toList ++ "x".toList ++ " \x7b ".toList ++ Text.joined [' '] [renderString value.toList] ++
    " \x7d".toList) = _
  rw [Text.joined_singleton]
  rfl

theorem applyBindings_dangling (value : String) :
    (applyBindings .standard (danglingText openCell) (literalDocument value)).map Prod.fst =
      .ok (danglingText (renderString value.toList)) := by
  have fills : List.Forall₂ Slot.Fills [danglingSlot value]
      [⟨⟨31, 50⟩, "VALUES ?x \x7b ".toList ++ renderString value.toList ++ " \x7d".toList⟩] :=
    .cons ⟨rfl, rendered_dangling value⟩ .nil
  rw [applyBindings_eq_ok parse_dangling rfl (slots_dangling value) fills]
  have front : Span.slice ⟨0, 31⟩ (danglingText openCell) = "SELECT * WHERE \x7b FILTER(''' ') ".toList := rfl
  have back : spliced (danglingText openCell) 50 [] = " \x7d".toList := rfl
  rw [spliced, front, back]
  unfold danglingText
  simp

/-- A value without marks ends no string, so the selection is read with it. -/
theorem applyBindings_refilled_dangling :
    (applyBindings .standard (danglingText openCell) (literalDocument "a")).map Prod.fst =
        .ok (danglingText "\"a\"".toList) ∧
      (∀ block ∈ danglingQuery.blocks, ∀ slot,
        block.HasSlot (loadedSets (BindingSet.ofDocuments [literalDocument "a"])) slot →
          ∀ tokens, slot.KeepsOpen (danglingText openCell) tokens) ∧
      ∃ query', parse .standard (danglingText "\"a\"".toList) = .ok query' ∧
        danglingQuery.Like (.filled (loadedSets (BindingSet.ofDocuments [literalDocument "a"]))) query' ∧
        query'.outputs = danglingQuery.outputs ∧ query'.variableGroups = danglingQuery.variableGroups := by
  have filled := applyBindings_dangling "a"
  have keeps : ∀ block ∈ danglingQuery.blocks, ∀ slot,
      block.HasSlot (loadedSets (BindingSet.ofDocuments [literalDocument "a"])) slot →
        ∀ tokens, slot.KeepsOpen (danglingText openCell) tokens := by
    intro block member slot has tokens rendered written token _ mark quote _ _
    obtain rfl := List.mem_singleton.mp member
    obtain rfl : danglingSlot "a" = slot := Option.some.inj (slot?_eq_some.mpr has)
    obtain rfl := Except.ok.inj (written.symm.trans (rendered_dangling "a"))
    rcases List.mem_pair.mp quote with rfl | rfl <;> rfl
  obtain ⟨tokens, tokenized⟩ : ∃ tokens, tokenize .standard (danglingText openCell) = .ok tokens := ⟨_, rfl⟩
  obtain ⟨_, read⟩ : ∃ tokens, tokenize .standard (danglingText "\"a\"".toList) = .ok tokens := ⟨_, rfl⟩
  refine ⟨filled, keeps, applyBindings_refilled parse_dangling tokenized rfl filled
    (fun block member slot has => keeps block member slot has _) ?_⟩
  intro reached value maximum position full
  cases read.symm.trans full

/-- A value of three marks ends the string in front of which they dangle, and the rest is no longer a query. -/
theorem applyBindings_misread :
    parse .standard (danglingText openCell) = .ok danglingQuery ∧
      (applyBindings .standard (danglingText openCell) (literalDocument "'''")).map Prod.fst =
        .ok (danglingText "\"'''\"".toList) ∧
      parse .standard (danglingText "\"'''\"".toList) =
        .error (.rejected (.lexical .unterminatedString ⟨1, 48, 47⟩)) :=
  ⟨parse_dangling, applyBindings_dangling "'''", rfl⟩

end QuerySignature
