import Mathlib.Data.List.Nodup
import QuerySignature.Proofs.Orderly.Rules
import QuerySignature.Proofs.Query.Tree
import QuerySignature.Reading.Block
import QuerySignature.Reading.Expression

/-!
# Proofs/WellFormed/Trees — when the tree of a part is well formed

Much of what `Tree.Sound` says the types of a query carry by themselves: a verb is a predicate, a node no path, a
listed column no star.  The rest is said of the parts from which a tree is made: that a property list has a verb,
that the rows of a block are as long as its header, that the variables of an expression do not repeat.
-/

namespace QuerySignature

/-! ## What the types carry -/

namespace Tree

/-- The trees of a list, if they are given one by one. -/
theorem trees_eq_map {α : Type} {trees : List α → List Tree} {tree : α → Tree} (nil : trees [] = [])
    (cons : ∀ a rest, trees (a :: rest) = tree a :: trees rest) (list : List α) : trees list = list.map tree := by
  induction list with
  | nil => exact nil
  | cons a rest ih => rw [cons, ih, List.map_cons]

end Tree

open QuerySignature.Tree
open Reader (Given)

theorem Resource.wellFormed_tree (name : Resource) : name.tree.WellFormed := by
  cases name <;> exact everywhere_of_leaf trivial rfl

theorem Target.wellFormed_tree (target : Target) : target.tree.WellFormed := by
  cases target with
  | var name => exact everywhere_of_leaf trivial rfl
  | resource name => exact name.wellFormed_tree

theorem Verb.wellFormed_tree (verb : Verb) : verb.tree.WellFormed := by
  cases verb with
  | var name => exact everywhere_of_leaf trivial rfl
  | resource name => exact name.wellFormed_tree
  | path text => exact everywhere_of_leaf trivial rfl

theorem Cell.wellFormed_tree (cell : Cell) : cell.tree.WellFormed := by
  cases cell with
  | resource name => exact name.wellFormed_tree
  | literal term => exact everywhere_of_leaf trivial rfl
  | undef => exact everywhere_of_leaf trivial rfl

/-- **A verb may stand between subject and object.** -/
theorem Verb.isPredicate_tree (verb : Verb) : verb.tree.IsPredicate := by
  rcases verb with _ | (_ | _) | _ <;> trivial

/-- **A cell is a resource, a literal or open.** -/
theorem Cell.isData_tree (cell : Cell) : cell.tree.IsData := by
  rcases cell with (_ | _) | _ | _ <;> trivial

/-- **A node is no path.** -/
theorem Node.not_isPath_tree (node : Node) : ¬node.tree.IsPath := by
  rcases node with _ | (_ | _) | _ | _ | _ | _ <;> exact id

/-- **An element is no inner selection.** -/
theorem Element.not_isSubSelect_tree (element : Element) : ¬element.tree.IsSubSelect := by
  cases element <;> exact id

/-! ## Nodes and triples -/

/-- The tree of the node is well formed. -/
abbrev Node.WellFormed (node : Node) : Prop :=
  node.tree.WellFormed

/-- The tree of the triple is well formed. -/
abbrev Triple.WellFormed (triple : Triple) : Prop :=
  triple.tree.WellFormed

/-- **Verbs and objects make a property list**: there are some, and the trees of the objects are well formed. -/
abbrev PropertiesWellFormed (list : List (Verb × Node)) : Prop :=
  list ≠ [] ∧ ∀ pair ∈ list, pair.2.WellFormed

/-- A triple is as well-formed as its ends. -/
theorem Triple.wellFormed {subject object : Node} (verb : Verb) (h : subject.WellFormed) (h' : object.WellFormed) :
    Triple.WellFormed ⟨subject, verb, object⟩ := by
  refine everywhere_iff.mpr ⟨⟨verb.isPredicate_tree, subject.not_isPath_tree, object.not_isPath_tree⟩, ?_⟩
  exact List.forall_mem_cons.mpr ⟨h, List.forall_mem_cons.mpr ⟨verb.wellFormed_tree,
    List.forall_mem_singleton.mpr h'⟩⟩

/-- The properties in brackets are triples of a blank node without a label. -/
theorem Node.treesOfProperties_eq (list : List (Verb × Node)) : Node.treesOfProperties list =
    list.map fun pair => Triple.tree ⟨.blank none, pair.1, pair.2⟩ :=
  trees_eq_map rfl (fun _ _ => rfl) list

/-- The parts of a collection are its items. -/
theorem Node.treesOfItems_eq (items : List Node) : Node.treesOfItems items = items.map Node.tree :=
  trees_eq_map rfl (fun _ _ => rfl) items

theorem Node.wellFormed_blank (label : Option Text) : Node.WellFormed (.blank label) :=
  everywhere_of_leaf trivial rfl

/-- **A property list is made of triples of the unlabelled blank node**, and has one. -/
theorem Node.wellFormed_properties {list : List (Verb × Node)} (h : PropertiesWellFormed list) :
    Node.WellFormed (.properties list) := by
  rw [Node.WellFormed, Node.tree, Node.treesOfProperties_eq]
  refine everywhere_iff.mpr ⟨⟨?_, ?_⟩, ?_⟩
  · exact fun none_ => h.1 (List.map_eq_nil_iff.mp none_)
  · exact List.forall_mem_map.mpr fun pair _ => ⟨pair.1.tree, pair.2.tree, rfl⟩
  · exact List.forall_mem_map.mpr fun pair member => Triple.wellFormed pair.1 (wellFormed_blank none) (h.2 pair member)

/-- A collection is as well-formed as its items. -/
theorem Node.wellFormed_collection {items : List Node} (h : ∀ item ∈ items, item.WellFormed) :
    Node.WellFormed (.collection items) := by
  rw [Node.WellFormed, Node.tree, Node.treesOfItems_eq]
  exact everywhere_iff.mpr ⟨trivial, List.forall_mem_map.mpr h⟩

/-- The objects of a well formed property list are well formed. -/
theorem Node.wellFormed_objects {list : List (Verb × Node)} (h : Node.WellFormed (.properties list)) :
    ∀ pair ∈ list, pair.2.WellFormed := by
  rw [Node.WellFormed, Node.tree, Node.treesOfProperties_eq] at h
  intro pair member
  have triple := (everywhere_iff.mp h).2 _ (List.mem_map_of_mem member)
  exact (everywhere_iff.mp triple).2 _ (.tail _ (.tail _ (.head _)))

/-- The triples of a subject are well formed if it is, and if the objects are. -/
theorem Triple.wellFormed_ofSubject {subject : Node} {list : List (Verb × Node)} (h : subject.WellFormed)
    (h' : ∀ pair ∈ list, pair.2.WellFormed) : ∀ triple ∈ ofSubject subject list, triple.WellFormed :=
  List.forall_mem_map.mpr fun pair member => Triple.wellFormed pair.1 h (h' pair member)

/-! ## Inline data and expressions -/

/-- The tree of the block is well formed. -/
abbrev Values.WellFormed (block : Values) : Prop :=
  block.tree.WellFormed

/-- What holds of each written item holds of all of them. -/
theorem IsSequence.forall_mem {α : Type} {item : List Token → α → Prop} {P : α → Prop} {tokens : List Token}
    {list : List α} (each : ∀ {tokens a}, item tokens a → P a) (h : IsSequence item tokens list) :
    ∀ a ∈ list, P a := by
  induction h with
  | nil => exact fun _ none_ => nomatch none_
  | cons first _ ih => exact List.forall_mem_cons.mpr ⟨each first, ih⟩

/-- **A block that tokens write** has rows as long as its header. -/
theorem IsBlock.rows_length {tokens : List Token} {block : Values} (h : IsBlock tokens block) :
    ∀ row ∈ block.rows, row.length = block.vars.length := by
  cases h with
  | short _ _ _ rows _ => exact rows.forall_mem fun ⟨_⟩ => rfl
  | long _ _ _ _ _ rows _ =>
    rw [List.length_map]
    exact rows.forall_mem fun ⟨_, _, _, fits⟩ => fits

/-- **A block that is written in tokens is well-formed**: each row has a cell for each variable. -/
theorem IsBlock.wellFormed {tokens : List Token} {block : Values} (h : IsBlock tokens block) : block.WellFormed := by
  refine everywhere_iff.mpr ⟨List.forall_mem_map.mpr fun row member => ⟨?_, ?_⟩, ?_⟩
  · rw [List.length_map]
    exact h.rows_length row member
  · exact List.forall_mem_map.mpr fun cell _ => cell.isData_tree
  · refine List.forall_mem_flatten.mpr (List.forall_mem_map.mpr fun row _ => ?_)
    exact List.forall_mem_map.mpr fun cell _ => cell.wellFormed_tree

/-- The tree of the group is well formed. -/
abbrev Group.WellFormed (group : Group) : Prop :=
  group.tree.WellFormed

/-- The tree of the expression is well formed. -/
abbrev Expression.WellFormed (expression : Expression) : Prop :=
  expression.tree.WellFormed

/-- The groups that were found on the way are well formed. -/
abbrev Scanned.WellFormed (scanned : Scanned) : Prop :=
  ∀ group ∈ scanned.patterns, group.WellFormed

theorem Group.trees_eq (groups : List Group) : Group.trees groups = groups.map Group.tree :=
  trees_eq_map rfl (fun _ _ => rfl) groups

theorem Expression.trees_eq (list : List Expression) : Expression.trees list = list.map Expression.tree :=
  trees_eq_map rfl (fun _ _ => rfl) list

theorem Projection.trees_eq (list : List Projection) : Projection.trees list = list.map Projection.tree :=
  trees_eq_map rfl (fun _ _ => rfl) list

theorem OrderKey.trees_eq (list : List OrderKey) : OrderKey.trees list = list.map OrderKey.tree :=
  trees_eq_map rfl (fun _ _ => rfl) list

/-- A list without its repetitions has none. -/
theorem nodup_eraseDups (list : List Text) : list.eraseDups.Nodup := by
  induction h : list.length using Nat.strongRecOn generalizing list with
  | ind n ih =>
    cases list with
    | nil => exact .nil
    | cons first rest =>
      rw [List.eraseDups_cons]
      refine List.nodup_cons.mpr ⟨by simp, ih _ ?_ _ rfl⟩
      rw [← h]
      exact Nat.lt_succ_of_le (List.length_filter_le _ rest)

/-- An expression lists each variable once. -/
theorem Expression.wellFormed {text : Text} {vars : List Text} {patterns : List Group} (once : vars.Nodup)
    (h : ∀ group ∈ patterns, group.WellFormed) : Expression.WellFormed ⟨text, vars, patterns⟩ := by
  rw [Expression.WellFormed, Expression.tree, Group.trees_eq]
  exact everywhere_iff.mpr ⟨once, List.forall_mem_map.mpr h⟩

/-- What holds of a well formed expression. -/
theorem Expression.WellFormed.parts {expression : Expression} (h : expression.WellFormed) :
    expression.vars.Nodup ∧ ∀ group ∈ expression.patterns, group.WellFormed := by
  obtain ⟨text, vars, patterns⟩ := expression
  rw [Expression.WellFormed, Expression.tree, Group.trees_eq] at h
  obtain ⟨once, below⟩ := everywhere_iff.mp h
  exact ⟨once, fun group member => below _ (List.mem_map_of_mem member)⟩

/-- **An expression mentions each variable once.** -/
theorem Scanned.wellFormed_expression {scanned : Scanned} (h : scanned.WellFormed) : scanned.expression.WellFormed :=
  Expression.wellFormed (nodup_eraseDups _) h

/-- Pieces that are well-formed give a well-formed whole. -/
theorem Scanned.wellFormed_concat {pieces : List Scanned} (h : ∀ piece ∈ pieces, piece.WellFormed) :
    (Scanned.concat pieces).WellFormed :=
  List.forall_mem_flatMap.mpr h

/-! ## Selections and modifiers -/

/-- The tree of the column is well formed. -/
abbrev Projection.WellFormed (projection : Projection) : Prop :=
  projection.tree.WellFormed

/-- The tree of the selection is well formed. -/
abbrev Selection.WellFormed (selection : Selection) : Prop :=
  selection.tree.WellFormed

/-- The tree of the modifiers is well formed. -/
abbrev Modifiers.WellFormed (modifiers : Modifiers) : Prop :=
  modifiers.tree.WellFormed

/-- A column is no star. -/
theorem Projection.tree_ne_star (projection : Projection) : projection.tree ≠ .star := by
  cases projection <;> exact fun same => nomatch same

/-- What a selection does with equal solutions is one thing. -/
theorem Duplicates.not_both (duplicates : Duplicates) :
    ¬(decide (duplicates = .distinct) = true ∧ decide (duplicates = .reduced) = true) := by
  cases duplicates <;> decide

theorem Selection.wellFormed_everything (duplicates : Duplicates) : Selection.WellFormed ⟨.everything, duplicates⟩ :=
  everywhere_of_child ⟨List.cons_ne_nil _ _, fun _ => rfl, duplicates.not_both⟩ rfl
    (everywhere_of_leaf trivial rfl)

/-- **A list of columns has one, and no star.** -/
theorem Selection.wellFormed_listed {list : List Projection} (duplicates : Duplicates) (some_ : list ≠ [])
    (h : ∀ projection ∈ list, projection.WellFormed) : Selection.WellFormed ⟨.listed list, duplicates⟩ := by
  rw [Selection.WellFormed, Selection.tree, Projections.trees, Projection.trees_eq]
  refine everywhere_iff.mpr ⟨⟨fun none_ => some_ (List.map_eq_nil_iff.mp none_), fun star => ?_, duplicates.not_both⟩,
    List.forall_mem_map.mpr h⟩
  obtain ⟨projection, -, same⟩ := List.mem_map.mp star
  exact absurd same projection.tree_ne_star

/-- Modifiers are as well-formed as their expressions. -/
theorem Modifiers.wellFormed {groupBy having : List Expression} {orderBy : List OrderKey} {limit offset : Option Slice}
    (grouping : ∀ expression ∈ groupBy, expression.WellFormed) (constraints : ∀ expression ∈ having, expression.WellFormed)
    (keys : ∀ key ∈ orderBy, key.expression.WellFormed) :
    Modifiers.WellFormed ⟨groupBy, having, orderBy, limit, offset⟩ := by
  rw [Modifiers.WellFormed, Modifiers.tree, Expression.trees_eq, Expression.trees_eq, OrderKey.trees_eq]
  refine everywhere_iff.mpr ⟨trivial, List.forall_mem_append.mpr ⟨List.forall_mem_append.mpr ⟨?_, ?_⟩, ?_⟩⟩
  · exact List.forall_mem_map.mpr grouping
  · exact List.forall_mem_map.mpr constraints
  · refine List.forall_mem_map.mpr fun key member => ?_
    obtain ⟨expression, descending⟩ := key
    exact everywhere_of_child trivial rfl (keys _ member)

/-! ## Groups and queries -/

/-- The tree of the element is well formed. -/
abbrev Element.WellFormed (element : Element) : Prop :=
  element.tree.WellFormed

/-- The tree of the inner selection is well formed. -/
abbrev SubSelect.WellFormed (inner : SubSelect) : Prop :=
  inner.tree.WellFormed

/-- The tree of the operation is well formed. -/
abbrev Operation.WellFormed (operation : Operation) : Prop :=
  operation.tree.WellFormed

/-- The tree of the query is well formed. -/
abbrev Query.WellFormed (query : Query) : Prop :=
  query.tree.WellFormed

theorem Element.trees_eq (elements : List Element) : Element.trees elements = elements.map Element.tree :=
  trees_eq_map rfl (fun _ _ => rfl) elements

/-- A group is as well-formed as its elements. -/
theorem Group.wellFormed_pattern {elements : List Element} (h : ∀ element ∈ elements, element.WellFormed) :
    Group.WellFormed (.pattern elements) := by
  rw [Group.WellFormed, Group.tree, Element.trees_eq]
  refine everywhere_iff.mpr ⟨List.forall_mem_map.mpr fun element _ inner => ?_, List.forall_mem_map.mpr h⟩
  exact absurd inner element.not_isSubSelect_tree

theorem Group.wellFormed_selection {inner : SubSelect} (h : inner.WellFormed) : Group.WellFormed (.selection inner) :=
  everywhere_of_child (List.forall_mem_singleton.mpr fun _ => rfl) rfl h

/-- **A union has two alternatives**, and may have others. -/
theorem Element.wellFormed_union {first second : Group} {others : List Group} (h : first.WellFormed)
    (h' : second.WellFormed) (all : ∀ group ∈ others, group.WellFormed) :
    Element.WellFormed (.union first second others) := by
  rw [Element.WellFormed, Element.tree, Group.trees_eq]
  refine everywhere_iff.mpr ⟨?_, List.forall_mem_cons.mpr ⟨h, List.forall_mem_cons.mpr ⟨h', ?_⟩⟩⟩
  · exact Nat.le_add_left 2 _
  · exact List.forall_mem_map.mpr all

/-- A pattern of a graph that is named, or is at an endpoint. -/
theorem Tree.wellFormed_of_target {tree : Tree} {target : Target} {group : Group} (sound : tree.Sound)
    (both : tree.children = [target.tree, group.tree]) (h : group.WellFormed) : tree.WellFormed := by
  refine everywhere_iff.mpr ⟨sound, ?_⟩
  rw [both]
  exact List.forall_mem_cons.mpr ⟨target.wellFormed_tree, List.forall_mem_singleton.mpr h⟩

/-- What holds of the tree of an item, if there is one. -/
theorem Tree.forall_mem_toList {α : Type} {item : Option α} {tree : α → Tree}
    (h : Given (fun a => (tree a).WellFormed) item) : ∀ child ∈ (item.map tree).toList, child.WellFormed := by
  cases item with
  | none => exact fun _ none_ => nomatch none_
  | some a => exact List.forall_mem_singleton.mpr h

theorem SubSelect.wellFormed {selection : Selection} {group : Group} {modifiers : Modifiers} {values : Option Values}
    (columns : selection.WellFormed) (pattern : group.WellFormed) (behind : modifiers.WellFormed)
    (block : Given Values.WellFormed values) :
    SubSelect.WellFormed ⟨selection, group, modifiers, values⟩ := by
  refine everywhere_iff.mpr ⟨trivial, List.forall_mem_append.mpr ⟨?_, forall_mem_toList block⟩⟩
  exact List.forall_mem_cons.mpr ⟨columns, List.forall_mem_cons.mpr ⟨pattern, List.forall_mem_singleton.mpr behind⟩⟩

theorem Operation.wellFormed {operation : Operation} {name : Text} (group deleted inserted : Option Group)
    (whole : operation.tree = .operation name (group.map Group.tree) (deleted.map Group.tree)
      (inserted.map Group.tree))
    (matches_ : Given Group.WellFormed group) (removes : Given Group.WellFormed deleted)
    (asserts : Given Group.WellFormed inserted) : operation.WellFormed := by
  rw [Operation.WellFormed, whole]
  refine everywhere_iff.mpr ⟨trivial, List.forall_mem_append.mpr ⟨List.forall_mem_append.mpr ⟨?_, ?_⟩, ?_⟩⟩
  · exact forall_mem_toList matches_
  · exact forall_mem_toList removes
  · exact forall_mem_toList asserts

/-- **Each form has its parts**; of an update request it must be said that it has an operation. -/
theorem Query.sound_tree {query : Query} (some_ : query.form = "UPDATE".toList → query.operations ≠ []) :
    query.tree.Sound := by
  obtain ⟨prologue, body⟩ := query
  cases body with
  | update operations =>
    have some_ := some_ rfl
    rw [Query.operations] at some_
    simp [Tree.Sound, Query.tree, Query.form, Query.selection?, Query.group?, Query.operations, some_]
  | _ => simp [Tree.Sound, Query.tree, Query.form, Query.selection?, Query.group?, Query.operations]

theorem Query.wellFormed {query : Query} (some_ : query.form = "UPDATE".toList → query.operations ≠ [])
    (columns : Given Selection.WellFormed query.selection?) (pattern : Given Group.WellFormed query.group?)
    (behind : query.modifiers.WellFormed) (block : Given Values.WellFormed query.values?)
    (each : ∀ operation ∈ query.operations, operation.WellFormed) : query.WellFormed := by
  refine everywhere_iff.mpr ⟨Query.sound_tree some_, ?_⟩
  simp only [Query.tree, children, List.forall_mem_append]
  exact ⟨⟨⟨⟨forall_mem_toList columns, forall_mem_toList pattern⟩, List.forall_mem_singleton.mpr behind⟩,
    forall_mem_toList block⟩, List.forall_mem_map.mpr each⟩

end QuerySignature
