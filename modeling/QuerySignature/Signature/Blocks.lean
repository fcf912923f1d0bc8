import QuerySignature.Signature.Outputs

/-!
# Signature/Blocks — inline data blocks and their variable groups

Every inline data block declares variables that belong together.  `Query.blocks` lists the blocks of a query
in the order of the text: those of its pattern at any depth, also under `EXISTS` in filters and bindings,
then the one behind the modifiers, then those of the operations of an update.  A block is open if one of its
rows leaves every variable open; such a row is a slot for a caller to fill.
-/

namespace QuerySignature

/-- The variables that a block declares, each once. -/
def Values.group (block : Values) : List Text :=
  addNames [] block.vars

/-- The row has cells, and all of them are open. -/
def isOpenRow (row : List Cell) : Bool :=
  !row.isEmpty && row.all (· == .undef)

/-- **The block has an open row.** -/
def Values.isOpen (block : Values) : Bool :=
  block.rows.any isOpenRow

mutual

/-- **The blocks of a group**, in the order of the text. -/
def Group.blocks : Group → List Values
  | .pattern elements => Element.blocksOfAll elements
  | .selection inner => inner.blocks

/-- The blocks of elements. -/
def Element.blocksOfAll : List Element → List Values
  | [] => []
  | element :: rest => element.blocks ++ Element.blocksOfAll rest

/-- The blocks of an element. -/
def Element.blocks : Element → List Values
  | .triple _ => []
  | .values block => [block]
  | .filter expression => expression.blocks
  | .optional group => group.blocks
  | .nested group => group.blocks
  | .union first second others => first.blocks ++ second.blocks ++ Group.blocksOfAll others
  | .minus group => group.blocks
  | .graph _ group => group.blocks
  | .service _ _ group => group.blocks
  | .bind expression _ => expression.blocks

/-- The blocks of groups. -/
def Group.blocksOfAll : List Group → List Values
  | [] => []
  | group :: rest => group.blocks ++ Group.blocksOfAll rest

/-- The blocks of the groups under `EXISTS` in an expression. -/
def Expression.blocks : Expression → List Values
  | ⟨_, _, patterns⟩ => Group.blocksOfAll patterns

/-- The blocks of an inner selection: those of its pattern, then the one behind its modifiers. -/
def SubSelect.blocks : SubSelect → List Values
  | ⟨_, group, _, values⟩ => group.blocks ++ values.toList

end

/-- **The blocks of a query**, in the order of the text. -/
def Query.blocks (query : Query) : List Values :=
  (query.group?.map Group.blocks).getD [] ++ query.values?.toList
    ++ query.operations.flatMap fun operation => (operation.group?.map Group.blocks).getD []

/-- **The variable groups of a query**, one for each block. -/
def Query.variableGroups (query : Query) : List (List Text) :=
  query.blocks.map Values.group

end QuerySignature
