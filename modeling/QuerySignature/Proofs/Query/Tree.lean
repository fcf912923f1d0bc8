import QuerySignature.Query.Pattern

/-!
# Proofs/Query/Tree — a query as a tree of nodes of one type

The types of a query keep apart what may stand where: a path is a verb and never a node, a cell is no variable,
an inner selection is a whole group.  A walk over a query sees nodes of one type instead, and `Query.tree` is what
it sees: a triple has three subtrees of any kind, a group a list of elements among which an inner selection may be.
`Tree.Sound` says of a node what a walk relies on, and `Tree.Everywhere` says it of all nodes of a tree.
-/

namespace QuerySignature

/-- **A node of a query**, with the nodes below it. -/
inductive Tree where
  | var (name : Text)
  | iri (value : Text)
  | prefixed (label name : Text)
  | literal (literal : Literal)
  | undef
  | blank (label : Option Text)
  | path (text : Text)
  | propertyList (triples : List Tree)
  | collection (items : List Tree)
  | triple (subject predicate object : Tree)
  | values (vars : List Text) (rows : List (List Tree))
  | expression (text : Text) (vars : List Text) (patterns : List Tree)
  | star
  | aliased (expression : Tree) (name : Text)
  | selection (projections : List Tree) (distinct reduced : Bool)
  | filter (expression : Tree)
  | optional (group : Tree)
  | nested (group : Tree)
  | union (alternatives : List Tree)
  | minus (group : Tree)
  | graph (name group : Tree)
  | service (silent : Bool) (endpoint group : Tree)
  | bind (expression : Tree) (name : Text)
  | subSelect (selection group modifiers : Tree) (values : Option Tree)
  | group (elements : List Tree)
  | orderKey (expression : Tree) (descending : Bool)
  | modifiers (groupBy having orderBy : List Tree) (limit offset : Option Slice)
  | operation (name : Text) (group deleted inserted : Option Tree)
  | query (form : Text) (selection group : Option Tree) (modifiers : Tree) (values : Option Tree)
      (operations : List Tree)

namespace Tree

/-! ## Nodes -/

/-- The nodes directly below a node. -/
def children : Tree → List Tree
  | .propertyList triples => triples
  | .collection items => items
  | .triple subject predicate object => [subject, predicate, object]
  | .values _ rows => rows.flatten
  | .expression _ _ patterns => patterns
  | .aliased child _ => [child]
  | .selection columns _ _ => columns
  | .filter child => [child]
  | .optional child => [child]
  | .nested child => [child]
  | .union alternatives => alternatives
  | .minus child => [child]
  | .graph name child => [name, child]
  | .service _ endpoint child => [endpoint, child]
  | .bind child _ => [child]
  | .subSelect columns pattern behind block => [columns, pattern, behind] ++ block.toList
  | .group elements => elements
  | .orderKey child _ => [child]
  | .modifiers groupBy having orderBy _ _ => groupBy ++ having ++ orderBy
  | .operation _ pattern deleted inserted => pattern.toList ++ deleted.toList ++ inserted.toList
  | .query _ columns pattern behind block operations =>
    columns.toList ++ pattern.toList ++ [behind] ++ block.toList ++ operations
  | _ => []

/-- **A node of a tree**: its root, or a node of a tree below it. -/
inductive Has : Tree → Tree → Prop where
  | root (tree : Tree) : Has tree tree
  | child {tree child node : Tree} : child ∈ tree.children → Has child node → Has tree node

/-- The predicate holds of every node. -/
def Everywhere (P : Tree → Prop) (tree : Tree) : Prop :=
  ∀ node, tree.Has node → P node

/-- **A predicate holds everywhere** if it holds at the root and everywhere below. -/
theorem everywhere_iff {P : Tree → Prop} {tree : Tree} :
    tree.Everywhere P ↔ P tree ∧ ∀ child ∈ tree.children, child.Everywhere P := by
  constructor
  · intro h
    exact ⟨h tree (.root tree), fun child member node inside => h node (.child member inside)⟩
  · rintro ⟨here, below⟩ node (_ | ⟨member, inside⟩)
    · exact here
    · exact below _ member node inside

/-- A node with nothing below it. -/
theorem everywhere_of_leaf {P : Tree → Prop} {tree : Tree} (here : P tree) (leaf : tree.children = []) :
    tree.Everywhere P :=
  everywhere_iff.mpr ⟨here, by rw [leaf]; exact fun _ none_ => nomatch none_⟩

/-- A node with one node below it. -/
theorem everywhere_of_child {P : Tree → Prop} {tree child : Tree} (here : P tree) (only : tree.children = [child])
    (h : child.Everywhere P) : tree.Everywhere P :=
  everywhere_iff.mpr ⟨here, by rw [only]; exact List.forall_mem_singleton.mpr h⟩

/-! ## What a walk relies on -/

/-- A term of a cell: a resource, a literal, or the word that leaves it open. -/
def IsData : Tree → Prop
  | .iri _ | .prefixed .. | .literal _ | .undef => True
  | _ => False

/-- What may stand between subject and object: a variable, a resource or a path. -/
def IsPredicate : Tree → Prop
  | .var _ | .iri _ | .prefixed .. | .path _ => True
  | _ => False

/-- A path. -/
def IsPath : Tree → Prop
  | .path _ => True
  | _ => False

/-- An inner selection. -/
def IsSubSelect : Tree → Prop
  | .subSelect .. => True
  | _ => False

/-- **A node is well formed.**  Nodes of the kinds that are not listed may be of any shape. -/
def Sound : Tree → Prop
  | .values vars rows => ∀ row ∈ rows, row.length = vars.length ∧ ∀ cell ∈ row, cell.IsData
  | .union alternatives => 2 ≤ alternatives.length
  | .group elements => ∀ element ∈ elements, element.IsSubSelect → elements = [element]
  | .selection columns distinct reduced =>
    columns ≠ [] ∧ (star ∈ columns → columns = [star]) ∧ ¬(distinct = true ∧ reduced = true)
  | .triple subject predicate object => predicate.IsPredicate ∧ ¬subject.IsPath ∧ ¬object.IsPath
  | .propertyList triples =>
    triples ≠ [] ∧ ∀ child ∈ triples, ∃ predicate object, child = triple (blank none) predicate object
  | .expression _ vars _ => vars.Nodup
  | .query form columns pattern _ _ operations =>
    (columns.isSome = true ↔ form = "SELECT".toList) ∧ (operations ≠ [] ↔ form = "UPDATE".toList) ∧
      (form ∈ ["SELECT".toList, "ASK".toList, "CONSTRUCT".toList] → pattern.isSome = true) ∧
      (form = "UPDATE".toList → pattern = none)
  | _ => True

/-- **Every node is well formed.** -/
abbrev WellFormed (tree : Tree) : Prop :=
  tree.Everywhere Sound

end Tree

/-! ## Queries as trees -/

/-- A resource as a node. -/
def Resource.tree : Resource → Tree
  | .iri value => .iri value
  | .prefixed label name => .prefixed label name

/-- A variable or a resource as a node. -/
def Target.tree : Target → Tree
  | .var name => .var name
  | .resource name => name.tree

/-- A verb as a node. -/
def Verb.tree : Verb → Tree
  | .var name => .var name
  | .resource name => name.tree
  | .path text => .path text

/-- A cell as a node. -/
def Cell.tree : Cell → Tree
  | .resource name => name.tree
  | .literal term => .literal term
  | .undef => .undef

mutual

/-- **The tree of a node** of a triple; a property list holds the triples of a blank node. -/
def Node.tree : Node → Tree
  | .var name => .var name
  | .resource name => name.tree
  | .literal term => .literal term
  | .blank label => .blank label
  | .properties list => .propertyList (Node.treesOfProperties list)
  | .collection items => .collection (Node.treesOfItems items)

/-- The triples of a property list. -/
def Node.treesOfProperties : List (Verb × Node) → List Tree
  | [] => []
  | (verb, object) :: rest => .triple (.blank none) verb.tree object.tree :: Node.treesOfProperties rest

/-- The items of a collection. -/
def Node.treesOfItems : List Node → List Tree
  | [] => []
  | item :: rest => item.tree :: Node.treesOfItems rest

end

/-- The tree of a triple. -/
def Triple.tree (triple : Triple) : Tree :=
  .triple triple.subject.tree triple.verb.tree triple.object.tree

/-- The tree of an inline data block. -/
def Values.tree (block : Values) : Tree :=
  .values block.vars (block.rows.map fun row => row.map Cell.tree)

mutual

/-- **The tree of a group.** -/
def Group.tree : Group → Tree
  | .pattern elements => .group (Element.trees elements)
  | .selection inner => .group [inner.tree]

/-- The trees of elements. -/
def Element.trees : List Element → List Tree
  | [] => []
  | element :: rest => element.tree :: Element.trees rest

/-- The tree of an element. -/
def Element.tree : Element → Tree
  | .triple triple => triple.tree
  | .values block => block.tree
  | .filter expression => .filter expression.tree
  | .optional group => .optional group.tree
  | .nested group => .nested group.tree
  | .union first second others => .union (first.tree :: second.tree :: Group.trees others)
  | .minus group => .minus group.tree
  | .graph name group => .graph name.tree group.tree
  | .service silent endpoint group => .service silent endpoint.tree group.tree
  | .bind expression name => .bind expression.tree name

/-- The trees of groups. -/
def Group.trees : List Group → List Tree
  | [] => []
  | group :: rest => group.tree :: Group.trees rest

/-- The tree of an expression. -/
def Expression.tree : Expression → Tree
  | ⟨text, vars, patterns⟩ => .expression text vars (Group.trees patterns)

/-- The trees of expressions. -/
def Expression.trees : List Expression → List Tree
  | [] => []
  | expression :: rest => expression.tree :: Expression.trees rest

/-- The tree of a column. -/
def Projection.tree : Projection → Tree
  | .var name => .var name
  | .aliased expression name => .aliased expression.tree name

/-- The trees of columns. -/
def Projection.trees : List Projection → List Tree
  | [] => []
  | projection :: rest => projection.tree :: Projection.trees rest

/-- The trees of the columns of a selection; every variable is a star. -/
def Projections.trees : Projections → List Tree
  | .everything => [.star]
  | .listed list => Projection.trees list

/-- The tree of a selection. -/
def Selection.tree : Selection → Tree
  | ⟨projections, duplicates⟩ =>
    .selection projections.trees (duplicates = .distinct) (duplicates = .reduced)

/-- The tree of a sort key. -/
def OrderKey.tree : OrderKey → Tree
  | ⟨expression, descending⟩ => .orderKey expression.tree descending

/-- The trees of sort keys. -/
def OrderKey.trees : List OrderKey → List Tree
  | [] => []
  | key :: rest => key.tree :: OrderKey.trees rest

/-- The tree of modifiers. -/
def Modifiers.tree : Modifiers → Tree
  | ⟨groupBy, having, orderBy, limit, offset⟩ =>
    .modifiers (Expression.trees groupBy) (Expression.trees having) (OrderKey.trees orderBy) limit offset

/-- The tree of an inner selection. -/
def SubSelect.tree : SubSelect → Tree
  | ⟨selection, group, modifiers, values⟩ =>
    .subSelect selection.tree group.tree modifiers.tree (values.map Values.tree)

end

/-- **The tree of an operation**: what it matches, and what it removes and asserts. -/
def Operation.tree (operation : Operation) : Tree :=
  match operation with
  | .manage _ => .operation operation.name none none none
  | .insertData template => .operation operation.name none none (some template.tree)
  | .deleteData template => .operation operation.name none (some template.tree) none
  | .deleteWhere group => .operation operation.name (some group.tree) none none
  | .modify deleted inserted group =>
    .operation operation.name (some group.tree) (deleted.map Group.tree) (inserted.map Group.tree)

/-- **The tree of a query.** -/
def Query.tree (query : Query) : Tree :=
  .query query.form (query.selection?.map Selection.tree) (query.group?.map Group.tree) query.modifiers.tree
    (query.values?.map Values.tree) (query.operations.map Operation.tree)

end QuerySignature
