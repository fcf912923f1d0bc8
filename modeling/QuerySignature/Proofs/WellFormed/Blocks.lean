import QuerySignature.Proofs.Outcome.Run
import QuerySignature.Proofs.Token.Words
import QuerySignature.Proofs.WellFormed.Trees

/-!
# Proofs/WellFormed/Blocks — every block of a query is written by tokens of its text

Blocks stand at more places than those that a signature looks at: in templates, under `EXISTS` in a column or behind
the pattern.  Wherever one stands in the tree of a query, tokens of the text write it (`parse_stood`).
-/

namespace QuerySignature

open Piece
open QuerySignature.Tree (everywhere_iff everywhere_of_leaf everywhere_of_child)

/-- **Tokens of a text write the block.** -/
def Values.Stood (block : Values) : Prop :=
  ∃ tokens, (∀ token ∈ tokens, token.Found) ∧ IsBlock tokens block

/-- **A node that is a block** is written by tokens of a text. -/
def Tree.Stood : Tree → Prop
  | .values vars rows => ∃ block : Values, block.Stood ∧ block.tree = .values vars rows
  | _ => True

/-- **Every token is taken for itself**, and every block for itself, which tokens of a text write.  No region
differs from another. -/
def Likeness.stood : Likeness :=
  { Likeness.same with
    block := fun region b tokens b' tokens' =>
      Likeness.same.block region b tokens b' tokens' ∧ ∀ token ∈ tokens, token.Found
    reads := fun stands => Likeness.same.reads stands.1
    writes := fun stands => Likeness.same.writes stands.1
    vars := fun stands => Likeness.same.vars stands.1
    begins := fun stands => Likeness.same.begins stands.1 }

theorem respells_stood {steps : List Step} (sound : ∀ step ∈ steps, step.Sound)
    (found : ∀ token ∈ steps.flatMap Step.tokens, token.Found) :
    Respells .stood steps (steps.flatMap Step.tokens) := by
  induction steps with
  | nil => exact .nil
  | cons step steps ih =>
    rw [List.forall_mem_cons] at sound
    rw [List.flatMap_cons, List.forall_mem_append] at found
    cases step with
    | token t => exact .token rfl (ih sound.2 found.2)
    | block b tokens region => exact .block ⟨⟨rfl, rfl, sound.1⟩, found.1⟩ (ih sound.2 found.2)

/-! ## Terms -/

theorem Resource.stood (name : Resource) : name.tree.Everywhere Tree.Stood := by
  cases name <;> exact everywhere_of_leaf trivial rfl

theorem Target.stood (target : Target) : target.tree.Everywhere Tree.Stood := by
  cases target with
  | var name => exact everywhere_of_leaf trivial rfl
  | resource name => exact name.stood

theorem Verb.stood (verb : Verb) : verb.tree.Everywhere Tree.Stood := by
  cases verb with
  | var name => exact everywhere_of_leaf trivial rfl
  | resource name => exact name.stood
  | path text => exact everywhere_of_leaf trivial rfl

theorem Cell.stood (cell : Cell) : cell.tree.Everywhere Tree.Stood := by
  cases cell with
  | resource name => exact name.stood
  | literal term => exact everywhere_of_leaf trivial rfl
  | undef => exact everywhere_of_leaf trivial rfl

theorem Tree.stood_triple {subject predicate object : Tree} (h : subject.Everywhere Tree.Stood)
    (h' : predicate.Everywhere Tree.Stood) (h'' : object.Everywhere Tree.Stood) :
    (Tree.triple subject predicate object).Everywhere Tree.Stood :=
  everywhere_iff.mpr ⟨trivial, List.forall_mem_cons.mpr ⟨h, List.forall_mem_cons.mpr ⟨h',
    List.forall_mem_singleton.mpr h''⟩⟩⟩

mutual

theorem Node.stood : ∀ node : Node, node.tree.Everywhere Tree.Stood
  | .var _ => everywhere_of_leaf trivial rfl
  | .resource name => name.stood
  | .literal _ => everywhere_of_leaf trivial rfl
  | .blank _ => everywhere_of_leaf trivial rfl
  | .properties list => everywhere_iff.mpr ⟨trivial, Node.stood_properties list⟩
  | .collection items => everywhere_iff.mpr ⟨trivial, Node.stood_items items⟩
termination_by structural node => node

theorem Node.stood_properties : ∀ list : List (Verb × Node),
    ∀ child ∈ Node.treesOfProperties list, child.Everywhere Tree.Stood
  | [] => List.forall_mem_nil _
  | (verb, object) :: rest =>
    List.forall_mem_cons.mpr ⟨Tree.stood_triple (everywhere_of_leaf trivial rfl) verb.stood (Node.stood object),
      Node.stood_properties rest⟩
termination_by structural list => list

theorem Node.stood_items : ∀ items : List Node, ∀ child ∈ Node.treesOfItems items, child.Everywhere Tree.Stood
  | [] => List.forall_mem_nil _
  | item :: rest => List.forall_mem_cons.mpr ⟨Node.stood item, Node.stood_items rest⟩
termination_by structural items => items

end

/-! ## Groups and what stands in them -/

/-- A block that stands for itself is written by tokens of a text. -/
theorem Values.stood_of_stands {block block' : Values} (h : Likeness.stood.Stands block block') :
    block.tree.Everywhere Tree.Stood := by
  obtain ⟨tokens, _, ⟨-, -, is⟩, found⟩ := h
  refine everywhere_iff.mpr ⟨⟨block, ⟨tokens, found, is⟩, rfl⟩, ?_⟩
  refine List.forall_mem_flatten.mpr (List.forall_mem_map.mpr fun row _ => ?_)
  exact List.forall_mem_map.mpr fun cell _ => cell.stood

/-- What holds everywhere of a tree that is there or not. -/
theorem Values.stood_of_rel {found found' : Option Values} (h : Option.Rel Likeness.stood.Stands found found') :
    ∀ child ∈ (found.map Values.tree).toList, child.Everywhere Tree.Stood := by
  cases h with
  | none => exact List.forall_mem_nil _
  | some stands => exact List.forall_mem_singleton.mpr (Values.stood_of_stands stands)

mutual

theorem Group.stood : ∀ (group group' : Group), group.Like .stood group' → group.tree.Everywhere Tree.Stood
  | .pattern elements, .pattern elements', h => everywhere_iff.mpr ⟨trivial, Element.stood_all elements elements' h⟩
  | .selection inner, .selection inner', h => everywhere_of_child trivial rfl (SubSelect.stood inner inner' h)
termination_by structural group => group

theorem Element.stood_all : ∀ (list list' : List Element), Element.LikeAll .stood list list' →
    ∀ child ∈ Element.trees list, child.Everywhere Tree.Stood
  | [], [], _ => List.forall_mem_nil _
  | element :: rest, element' :: rest', h =>
    List.forall_mem_cons.mpr ⟨Element.stood element element' h.1, Element.stood_all rest rest' h.2⟩
termination_by structural list => list

theorem Element.stood : ∀ (element element' : Element), element.Like .stood element' →
    element.tree.Everywhere Tree.Stood
  | .triple triple, .triple _, _ => Tree.stood_triple triple.subject.stood triple.verb.stood triple.object.stood
  | .values _, .values _, h => Values.stood_of_stands h
  | .filter expression, .filter expression', h =>
    everywhere_of_child trivial rfl (Expression.stood expression expression' h)
  | .optional group, .optional group', h => everywhere_of_child trivial rfl (Group.stood group group' h)
  | .nested group, .nested group', h => everywhere_of_child trivial rfl (Group.stood group group' h)
  | .union first second others, .union first' second' others', h =>
    everywhere_iff.mpr ⟨trivial, List.forall_mem_cons.mpr ⟨Group.stood first first' h.1,
      List.forall_mem_cons.mpr ⟨Group.stood second second' h.2.1, Group.stood_all others others' h.2.2⟩⟩⟩
  | .minus group, .minus group', h => everywhere_of_child trivial rfl (Group.stood group group' h)
  | .graph name group, .graph _ group', h =>
    everywhere_iff.mpr ⟨trivial, List.forall_mem_cons.mpr ⟨name.stood,
      List.forall_mem_singleton.mpr (Group.stood group group' h.2)⟩⟩
  | .service _ endpoint group, .service _ _ group', h =>
    everywhere_iff.mpr ⟨trivial, List.forall_mem_cons.mpr ⟨endpoint.stood,
      List.forall_mem_singleton.mpr (Group.stood group group' h.2.2)⟩⟩
  | .bind expression _, .bind expression' _, h =>
    everywhere_of_child trivial rfl (Expression.stood expression expression' h.1)
termination_by structural element => element

theorem Group.stood_all : ∀ (list list' : List Group), Group.LikeAll .stood list list' →
    ∀ child ∈ Group.trees list, child.Everywhere Tree.Stood
  | [], [], _ => List.forall_mem_nil _
  | group :: rest, group' :: rest', h =>
    List.forall_mem_cons.mpr ⟨Group.stood group group' h.1, Group.stood_all rest rest' h.2⟩
termination_by structural list => list

theorem Expression.stood : ∀ (expression expression' : Expression), expression.Like .stood expression' →
    expression.tree.Everywhere Tree.Stood
  | ⟨_, _, patterns⟩, ⟨_, _, patterns'⟩, h =>
    everywhere_iff.mpr ⟨trivial, Group.stood_all patterns patterns' h.2.2⟩
termination_by structural expression => expression

theorem Expression.stood_all : ∀ (list list' : List Expression), Expression.LikeAll .stood list list' →
    ∀ child ∈ Expression.trees list, child.Everywhere Tree.Stood
  | [], [], _ => List.forall_mem_nil _
  | expression :: rest, expression' :: rest', h =>
    List.forall_mem_cons.mpr ⟨Expression.stood expression expression' h.1, Expression.stood_all rest rest' h.2⟩
termination_by structural list => list

theorem Projection.stood : ∀ (projection projection' : Projection), projection.Like .stood projection' →
    projection.tree.Everywhere Tree.Stood
  | .var _, .var _, _ => everywhere_of_leaf trivial rfl
  | .aliased expression _, .aliased expression' _, h =>
    everywhere_of_child trivial rfl (Expression.stood expression expression' h.1)
termination_by structural projection => projection

theorem Projection.stood_all : ∀ (list list' : List Projection), Projection.LikeAll .stood list list' →
    ∀ child ∈ Projection.trees list, child.Everywhere Tree.Stood
  | [], [], _ => List.forall_mem_nil _
  | projection :: rest, projection' :: rest', h =>
    List.forall_mem_cons.mpr ⟨Projection.stood projection projection' h.1, Projection.stood_all rest rest' h.2⟩
termination_by structural list => list

theorem Projections.stood : ∀ (projections projections' : Projections), projections.Like .stood projections' →
    ∀ child ∈ projections.trees, child.Everywhere Tree.Stood
  | .everything, .everything, _ => List.forall_mem_singleton.mpr (everywhere_of_leaf trivial rfl)
  | .listed list, .listed list', h => Projection.stood_all list list' h
termination_by structural projections => projections

theorem Selection.stood : ∀ (selection selection' : Selection), selection.Like .stood selection' →
    selection.tree.Everywhere Tree.Stood
  | ⟨projections, _⟩, ⟨projections', _⟩, h =>
    everywhere_iff.mpr ⟨trivial, Projections.stood projections projections' h.1⟩
termination_by structural selection => selection

theorem OrderKey.stood : ∀ (key key' : OrderKey), key.Like .stood key' → key.tree.Everywhere Tree.Stood
  | ⟨expression, _⟩, ⟨expression', _⟩, h =>
    everywhere_of_child trivial rfl (Expression.stood expression expression' h.1)
termination_by structural key => key

theorem OrderKey.stood_all : ∀ (list list' : List OrderKey), OrderKey.LikeAll .stood list list' →
    ∀ child ∈ OrderKey.trees list, child.Everywhere Tree.Stood
  | [], [], _ => List.forall_mem_nil _
  | key :: rest, key' :: rest', h =>
    List.forall_mem_cons.mpr ⟨OrderKey.stood key key' h.1, OrderKey.stood_all rest rest' h.2⟩
termination_by structural list => list

theorem Modifiers.stood : ∀ (modifiers modifiers' : Modifiers), modifiers.Like .stood modifiers' →
    modifiers.tree.Everywhere Tree.Stood
  | ⟨groupBy, having, orderBy, _, _⟩, ⟨groupBy', having', orderBy', _, _⟩, h =>
    everywhere_iff.mpr ⟨trivial, List.forall_mem_append.mpr ⟨List.forall_mem_append.mpr
      ⟨Expression.stood_all groupBy groupBy' h.1, Expression.stood_all having having' h.2.1⟩,
        OrderKey.stood_all orderBy orderBy' h.2.2.1⟩⟩
termination_by structural modifiers => modifiers

theorem SubSelect.stood : ∀ (inner inner' : SubSelect), inner.Like .stood inner' → inner.tree.Everywhere Tree.Stood
  | ⟨selection, group, modifiers, _⟩, ⟨selection', group', modifiers', _⟩, h =>
    everywhere_iff.mpr ⟨trivial, List.forall_mem_append.mpr
      ⟨List.forall_mem_cons.mpr ⟨Selection.stood selection selection' h.1,
        List.forall_mem_cons.mpr ⟨Group.stood group group' h.2.1,
          List.forall_mem_singleton.mpr (Modifiers.stood modifiers modifiers' h.2.2.1)⟩⟩,
        Values.stood_of_rel h.2.2.2⟩⟩
termination_by structural inner => inner

end

/-! ## Operations and queries -/

/-- The trees of a group that is there or not. -/
theorem Group.stood_of_rel {found found' : Option Group} (h : Option.Rel (Group.Like .stood) found found') :
    ∀ child ∈ (found.map Group.tree).toList, child.Everywhere Tree.Stood := by
  cases h with
  | none => exact List.forall_mem_nil _
  | some like => exact List.forall_mem_singleton.mpr (Group.stood _ _ like)

theorem Tree.stood_operation {name : Text} {first second third : Option Tree}
    (h : ∀ child ∈ first.toList, child.Everywhere Tree.Stood)
    (h' : ∀ child ∈ second.toList, child.Everywhere Tree.Stood)
    (h'' : ∀ child ∈ third.toList, child.Everywhere Tree.Stood) :
    (Tree.operation name first second third).Everywhere Tree.Stood :=
  everywhere_iff.mpr ⟨trivial, List.forall_mem_append.mpr ⟨List.forall_mem_append.mpr ⟨h, h'⟩, h''⟩⟩

/-- Templates stand in a region, but no region differs from another. -/
theorem Operation.stood {operation operation' : Operation} (h : operation.Like .stood operation') :
    operation.tree.Everywhere Tree.Stood := by
  have none_ : ∀ child ∈ (none : Option Tree).toList, child.Everywhere Tree.Stood := List.forall_mem_nil _
  have one {group group' : Group} (like : group.Like .stood group') :
      ∀ child ∈ (some group.tree).toList, child.Everywhere Tree.Stood :=
    List.forall_mem_singleton.mpr (Group.stood _ _ like)
  cases h with
  | manage => exact Tree.stood_operation none_ none_ none_
  | insertData like => exact Tree.stood_operation none_ none_ (one like)
  | deleteData like => exact Tree.stood_operation none_ (one like) none_
  | deleteWhere like => exact Tree.stood_operation (one like) none_ none_
  | modify removes asserts like =>
    exact Tree.stood_operation (one like) (Group.stood_of_rel removes) (Group.stood_of_rel asserts)

theorem Tree.stood_query {form : Text} {selection group values : Option Tree} {modifiers : Tree}
    {operations : List Tree} (columns : ∀ child ∈ selection.toList, child.Everywhere Tree.Stood)
    (pattern : ∀ child ∈ group.toList, child.Everywhere Tree.Stood) (behind : modifiers.Everywhere Tree.Stood)
    (block : ∀ child ∈ values.toList, child.Everywhere Tree.Stood)
    (each : ∀ child ∈ operations, child.Everywhere Tree.Stood) :
    (Tree.query form selection group modifiers values operations).Everywhere Tree.Stood := by
  refine everywhere_iff.mpr ⟨trivial, ?_⟩
  simp only [Tree.children, List.forall_mem_append]
  exact ⟨⟨⟨⟨columns, pattern⟩, List.forall_mem_singleton.mpr behind⟩, block⟩, each⟩

theorem Query.stood {query query' : Query} (h : query.Like .stood query') : query.tree.Everywhere Tree.Stood := by
  obtain ⟨prologue, body⟩ := query
  obtain ⟨prologue', body'⟩ := query'
  have none_ : ∀ child ∈ (none : Option Tree).toList, child.Everywhere Tree.Stood := List.forall_mem_nil _
  obtain ⟨-, like⟩ := h
  cases like with
  | select columns group modifiers values =>
    exact Tree.stood_query (List.forall_mem_singleton.mpr (Selection.stood _ _ columns))
      (List.forall_mem_singleton.mpr (Group.stood _ _ group)) (Modifiers.stood _ _ modifiers)
      (Values.stood_of_rel values) (List.forall_mem_nil _)
  | ask group modifiers values =>
    exact Tree.stood_query none_ (List.forall_mem_singleton.mpr (Group.stood _ _ group))
      (Modifiers.stood _ _ modifiers) (Values.stood_of_rel values) (List.forall_mem_nil _)
  | construct group modifiers values =>
    exact Tree.stood_query none_ (List.forall_mem_singleton.mpr (Group.stood _ _ group))
      (Modifiers.stood _ _ modifiers) (Values.stood_of_rel values) (List.forall_mem_nil _)
  | describe group modifiers values =>
    exact Tree.stood_query none_ (Group.stood_of_rel group) (Modifiers.stood _ _ modifiers)
      (Values.stood_of_rel values) (List.forall_mem_nil _)
  | update operations =>
    have each := (List.forall₂_and_left _ _).mp (operations.imp fun _ _ like => ⟨Operation.stood like, like⟩)
    exact Tree.stood_query none_ none_ (everywhere_iff.mpr ⟨trivial, List.forall_mem_nil _⟩) none_
      (List.forall_mem_map.mpr each.1)

theorem Cell.tree_injective : Function.Injective Cell.tree := by
  rintro (⟨_ | _⟩ | _ | _) (⟨_ | _⟩ | _ | _) same <;> cases same <;> rfl

/-- A block is known from its tree, but for its place. -/
theorem Values.tree_inj {block block' : Values} (h : block.tree = block'.tree) :
    block.vars = block'.vars ∧ block.rows = block'.rows := by
  rw [Values.tree, Values.tree, Tree.values.injEq] at h
  exact ⟨h.1, List.map_injective_iff.mpr (List.map_injective_iff.mpr Cell.tree_injective) h.2⟩

/-- **Wherever a block stands in a query**, tokens of the text write it. -/
theorem parse_stood {limits : Limits} {text : Text} {query : Query} {block : Values}
    (parsed : parse limits text = .ok query) (stands : query.tree.Has block.tree) :
    ∃ span, Values.Stood ⟨block.vars, block.rows, span⟩ := by
  obtain ⟨-, pieces, cut, -, -, read⟩ := parse_eq_ok.mp parsed
  have taken := limits.reader.conserves (placed .start pieces)
  rw [show limits.reader.read (placed .start pieces) = .done query [] from read, Reading.rest, List.append_nil] at taken
  have respells := respells_stood (limits.reader.sound (placed .start pieces)) fun token member => by
    rw [taken] at member
    exact found_of_mem cut member
  obtain ⟨query', -, like⟩ := read_of_respells read respells
  obtain ⟨found, stood, same⟩ : Tree.Stood block.tree := Query.stood like _ stands
  obtain ⟨vars, rows⟩ := Values.tree_inj same
  exact ⟨found.span, by rwa [← vars, ← rows]⟩

end QuerySignature
