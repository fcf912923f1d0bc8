import QuerySignature.Proofs.Origin.Rules
import QuerySignature.Proofs.WellFormed.Trees

/-!
# Proofs/Origin/Trees — which rule a node stems from

The text of a path and the expressions of a query are made by rules of the grammar from tokens that stand somewhere in
the query.  `Tree.Arises` says so of the nodes that hold them; the other nodes are put together from these and may be
of any origin.  A tree arises everywhere if its root does and the trees below it do, so for most nodes there is
nothing to say but what stands below them.
-/

namespace QuerySignature

variable {whole : List Token} {deepest : Nat}

namespace Tree

open Reader

/-- **The node stems from its rule**: a path from a verb, a column from a projection, a filter and an assignment from a
pattern, and the items of modifiers from conditions, constraints and sort keys. -/
def Arises (whole : List Token) (deepest : Nat) : Tree → Prop
  | .path text => Occurs whole deepest verb (.path text)
  | .aliased child name => ∃ projection, projection.tree = aliased child name ∧
      Occurs whole deepest projection? (some projection)
  | .filter child => ∃ element, element.tree = filter child ∧ Occurs whole deepest pattern element
  | .bind child name => ∃ element, element.tree = bind child name ∧ Occurs whole deepest pattern element
  | .modifiers grouping constraints keys limit offset => ∃ behind : Modifiers,
      behind.tree = modifiers grouping constraints keys limit offset ∧
      (∀ condition ∈ behind.groupBy, Occurs whole deepest groupCondition? (some condition)) ∧
      (∀ condition ∈ behind.having, Occurs whole deepest constraint condition) ∧
      ∀ key ∈ behind.orderBy, Occurs whole deepest orderKey? (some key)
  | _ => True

/-- **Every node stems from its rule.** -/
abbrev Traced (whole : List Token) (deepest : Nat) (tree : Tree) : Prop :=
  tree.Everywhere (Arises whole deepest)

/-- What holds wherever another predicate does. -/
theorem Everywhere.mono {P Q : Tree → Prop} {tree : Tree} (h : tree.Everywhere P) (imp : ∀ node, P node → Q node) :
    tree.Everywhere Q :=
  fun node inside => imp node (h node inside)

end Tree

open QuerySignature.Tree
open Reader (Given Occurs)

/-! ## Nodes and triples -/

theorem Resource.traced (name : Resource) : name.tree.Traced whole deepest := by
  cases name <;> exact everywhere_of_leaf trivial rfl

theorem Target.traced (target : Target) : target.tree.Traced whole deepest := by
  cases target with
  | var name => exact everywhere_of_leaf trivial rfl
  | resource name => exact name.traced

/-- A verb is a path that occurs. -/
theorem Verb.traced {verb : Verb} (h : Occurs whole deepest Reader.verb verb) : verb.tree.Traced whole deepest := by
  cases verb with
  | var name => exact everywhere_of_leaf trivial rfl
  | resource name => exact name.traced
  | path text => exact everywhere_of_leaf h rfl

theorem Cell.traced (cell : Cell) : cell.tree.Traced whole deepest := by
  cases cell with
  | resource name => exact name.traced
  | literal term => exact everywhere_of_leaf trivial rfl
  | undef => exact everywhere_of_leaf trivial rfl

/-- The verbs and objects of a property list are traced. -/
abbrev PropertiesTraced (whole : List Token) (deepest : Nat) (list : List (Verb × Node)) : Prop :=
  ∀ pair ∈ list, pair.1.tree.Traced whole deepest ∧ pair.2.tree.Traced whole deepest

/-- A triple has three parts. -/
theorem Triple.traced {triple : Triple} (h : triple.subject.tree.Traced whole deepest)
    (h' : triple.verb.tree.Traced whole deepest) (h'' : triple.object.tree.Traced whole deepest) :
    triple.tree.Traced whole deepest :=
  everywhere_iff.mpr ⟨trivial, List.forall_mem_cons.mpr ⟨h, List.forall_mem_cons.mpr ⟨h',
    List.forall_mem_singleton.mpr h''⟩⟩⟩

theorem Node.traced_blank (label : Option Text) : (Node.blank label).tree.Traced whole deepest :=
  everywhere_of_leaf trivial rfl

/-- The brackets have the triples of their list as parts. -/
theorem Node.traced_properties {list : List (Verb × Node)} (h : PropertiesTraced whole deepest list) :
    (Node.properties list).tree.Traced whole deepest := by
  rw [Node.tree, Node.treesOfProperties_eq]
  exact everywhere_iff.mpr ⟨trivial, List.forall_mem_map.mpr fun pair member =>
    Triple.traced (Node.traced_blank none) (h pair member).1 (h pair member).2⟩

/-- The verbs and objects of a property list that is traced are traced. -/
theorem Node.propertiesTraced {list : List (Verb × Node)} (h : (Node.properties list).tree.Traced whole deepest) :
    PropertiesTraced whole deepest list := by
  rw [Node.tree, Node.treesOfProperties_eq] at h
  intro pair member
  have below := (everywhere_iff.mp ((everywhere_iff.mp h).2 _ (List.mem_map_of_mem member))).2
  exact ⟨below _ (.tail _ (.head _)), below _ (.tail _ (.tail _ (.head _)))⟩

theorem Node.traced_collection {items : List Node} (h : ∀ item ∈ items, item.tree.Traced whole deepest) :
    (Node.collection items).tree.Traced whole deepest := by
  rw [Node.tree, Node.treesOfItems_eq]
  exact everywhere_iff.mpr ⟨trivial, List.forall_mem_map.mpr h⟩

/-- The triples of a subject, one for each object, are traced. -/
theorem Triple.traced_ofSubject {subject : Node} {list : List (Verb × Node)} (h : subject.tree.Traced whole deepest)
    (h' : PropertiesTraced whole deepest list) :
    ∀ triple ∈ ofSubject subject list, triple.tree.Traced whole deepest :=
  List.forall_mem_map.mpr fun pair member => Triple.traced h (h' pair member).1 (h' pair member).2

/-! ## Inline data and expressions -/

/-- A block is made of resources, literals and open cells. -/
theorem Values.traced (block : Values) : block.tree.Traced whole deepest := by
  refine everywhere_iff.mpr ⟨trivial, List.forall_mem_flatten.mpr (List.forall_mem_map.mpr fun row _ => ?_)⟩
  exact List.forall_mem_map.mpr fun cell _ => cell.traced

/-- The groups that were found on the way are traced. -/
abbrev Scanned.Traced (whole : List Token) (deepest : Nat) (scanned : Scanned) : Prop :=
  ∀ group ∈ scanned.patterns, group.tree.Traced whole deepest

/-- **An expression is traced** if the groups in it are. -/
theorem Expression.traced_iff {expression : Expression} :
    expression.tree.Traced whole deepest ↔ ∀ group ∈ expression.patterns, group.tree.Traced whole deepest := by
  obtain ⟨text, vars, patterns⟩ := expression
  rw [Expression.tree, Group.trees_eq]
  exact everywhere_iff.trans ((and_iff_right trivial).trans List.forall_mem_map)

/-- Another expression with the same groups. -/
theorem Expression.traced_like {expression other : Expression} (h : expression.tree.Traced whole deepest)
    (same : other.patterns = expression.patterns) : other.tree.Traced whole deepest :=
  Expression.traced_iff.mpr (same ▸ Expression.traced_iff.mp h)

/-- An expression has the groups of its tests as parts. -/
theorem Scanned.traced_expression {scanned : Scanned} (h : scanned.Traced whole deepest) :
    scanned.expression.tree.Traced whole deepest :=
  Expression.traced_iff.mpr h

theorem Scanned.traced_concat {pieces : List Scanned} (h : ∀ piece ∈ pieces, piece.Traced whole deepest) :
    (Scanned.concat pieces).Traced whole deepest :=
  List.forall_mem_flatMap.mpr h

/-! ## Selections and modifiers -/

/-- A column arises where it is read. -/
theorem Projection.arises {projection : Projection} (h : Occurs whole deepest Reader.projection? (some projection)) :
    Arises whole deepest projection.tree := by
  cases projection with
  | var name => exact trivial
  | aliased expression name => exact ⟨_, rfl, h⟩

theorem Selection.traced_everything (duplicates : Duplicates) :
    (Selection.mk .everything duplicates).tree.Traced whole deepest :=
  everywhere_of_child trivial rfl (everywhere_of_leaf trivial rfl)

theorem Selection.traced_listed {list : List Projection} (duplicates : Duplicates)
    (h : ∀ projection ∈ list, projection.tree.Traced whole deepest) :
    (Selection.mk (.listed list) duplicates).tree.Traced whole deepest := by
  rw [Selection.tree, Projections.trees, Projection.trees_eq]
  exact everywhere_iff.mpr ⟨trivial, List.forall_mem_map.mpr h⟩

/-- **Modifiers are traced** if each of their items is read by its rule and is traced. -/
theorem Modifiers.traced {modifiers : Modifiers}
    (grouping : ∀ condition ∈ modifiers.groupBy, Occurs whole deepest Reader.groupCondition? (some condition) ∧
      condition.tree.Traced whole deepest)
    (constraints : ∀ condition ∈ modifiers.having, Occurs whole deepest Reader.constraint condition ∧
      condition.tree.Traced whole deepest)
    (keys : ∀ key ∈ modifiers.orderBy, Occurs whole deepest Reader.orderKey? (some key) ∧
      key.expression.tree.Traced whole deepest) : modifiers.tree.Traced whole deepest := by
  obtain ⟨groupBy, having, orderBy, limit, offset⟩ := modifiers
  refine everywhere_iff.mpr ⟨⟨_, rfl, fun condition member => (grouping _ member).1,
    fun condition member => (constraints _ member).1, fun key member => (keys _ member).1⟩, ?_⟩
  rw [Modifiers.tree, Expression.trees_eq, Expression.trees_eq, OrderKey.trees_eq]
  refine List.forall_mem_append.mpr ⟨List.forall_mem_append.mpr ⟨?_, ?_⟩, ?_⟩
  · exact List.forall_mem_map.mpr fun condition member => (grouping _ member).2
  · exact List.forall_mem_map.mpr fun condition member => (constraints _ member).2
  · refine List.forall_mem_map.mpr fun key member => ?_
    obtain ⟨expression, descending⟩ := key
    exact everywhere_of_child trivial rfl (keys _ member).2

/-- Where no modifiers stand there is nothing to trace. -/
theorem Modifiers.traced_empty : Modifiers.empty.tree.Traced whole deepest :=
  Modifiers.traced (List.forall_mem_nil _) (List.forall_mem_nil _) (List.forall_mem_nil _)

/-! ## Groups and queries -/

/-- A pattern stems from its rule, whichever it is. -/
theorem Element.arises {element : Element} (h : Occurs whole deepest Reader.pattern element) :
    Arises whole deepest element.tree := by
  cases element with
  | filter expression => exact ⟨_, rfl, h⟩
  | bind expression name => exact ⟨_, rfl, h⟩
  | _ => exact trivial

/-- A group has its elements as parts. -/
theorem Group.traced_pattern {elements : List Element} (h : ∀ element ∈ elements, element.tree.Traced whole deepest) :
    (Group.pattern elements).tree.Traced whole deepest := by
  rw [Group.tree, Element.trees_eq]
  exact everywhere_iff.mpr ⟨trivial, List.forall_mem_map.mpr h⟩

theorem Group.traced_selection {inner : SubSelect} (h : inner.tree.Traced whole deepest) :
    (Group.selection inner).tree.Traced whole deepest :=
  everywhere_of_child trivial rfl h

/-- The trees directly below a pattern are traced. -/
abbrev Element.TracedBelow (whole : List Token) (deepest : Nat) (element : Element) : Prop :=
  ∀ child ∈ element.tree.children, child.Traced whole deepest

theorem Element.tracedBelow_union {first second : Group} {others : List Group} (h : first.tree.Traced whole deepest)
    (h' : second.tree.Traced whole deepest) (all : ∀ group ∈ others, group.tree.Traced whole deepest) :
    (Element.union first second others).TracedBelow whole deepest := by
  rw [Element.TracedBelow, Element.tree, Group.trees_eq]
  exact List.forall_mem_cons.mpr ⟨h, List.forall_mem_cons.mpr ⟨h', List.forall_mem_map.mpr all⟩⟩

/-- What holds of the tree of an item, if there is one. -/
theorem Tree.traced_toList {α : Type} {item : Option α} {tree : α → Tree}
    (h : Given (fun a => (tree a).Traced whole deepest) item) :
    ∀ child ∈ (item.map tree).toList, child.Traced whole deepest := by
  cases item with
  | none => exact fun _ none_ => nomatch none_
  | some a => exact List.forall_mem_singleton.mpr h

/-- The tree of the group, if there is one, is traced. -/
abbrev Group.GivenTraced (whole : List Token) (deepest : Nat) : Option Group → Prop :=
  Given fun group => group.tree.Traced whole deepest

/-- A sub-select has its columns, its group and its modifiers as parts; a block behind it has none. -/
theorem SubSelect.traced {selection : Selection} {group : Group} {modifiers : Modifiers} (values : Option Values)
    (columns : selection.tree.Traced whole deepest) (pattern : group.tree.Traced whole deepest)
    (behind : modifiers.tree.Traced whole deepest) :
    (SubSelect.mk selection group modifiers values).tree.Traced whole deepest := by
  refine everywhere_iff.mpr ⟨trivial, List.forall_mem_append.mpr ⟨?_, ?_⟩⟩
  · exact List.forall_mem_cons.mpr ⟨columns, List.forall_mem_cons.mpr ⟨pattern, List.forall_mem_singleton.mpr behind⟩⟩
  · cases values with
    | none => exact List.forall_mem_nil _
    | some block => exact List.forall_mem_singleton.mpr block.traced

/-- An operation has the groups that are given as parts. -/
theorem Operation.traced {operation : Operation} {name : Text} (group deleted inserted : Option Group)
    (tree : operation.tree = .operation name (group.map Group.tree) (deleted.map Group.tree)
      (inserted.map Group.tree))
    (matches_ : Group.GivenTraced whole deepest group) (removes : Group.GivenTraced whole deepest deleted)
    (asserts : Group.GivenTraced whole deepest inserted) : operation.tree.Traced whole deepest := by
  rw [tree]
  refine everywhere_iff.mpr ⟨trivial, List.forall_mem_append.mpr ⟨List.forall_mem_append.mpr ⟨?_, ?_⟩, ?_⟩⟩
  · exact traced_toList matches_
  · exact traced_toList removes
  · exact traced_toList asserts

/-- **The tree of a query is traced** if its parts are. -/
theorem Query.traced {query : Query} (columns : Given (fun selection => selection.tree.Traced whole deepest) query.selection?)
    (pattern : Group.GivenTraced whole deepest query.group?) (behind : query.modifiers.tree.Traced whole deepest)
    (each : ∀ operation ∈ query.operations, operation.tree.Traced whole deepest) :
    query.tree.Traced whole deepest := by
  refine everywhere_iff.mpr ⟨trivial, ?_⟩
  simp only [Query.tree, children, List.forall_mem_append]
  refine ⟨⟨⟨⟨traced_toList columns, traced_toList pattern⟩, List.forall_mem_singleton.mpr behind⟩, ?_⟩,
    List.forall_mem_map.mpr each⟩
  cases query.values? with
  | none => exact List.forall_mem_nil _
  | some block => exact List.forall_mem_singleton.mpr block.traced

end QuerySignature
