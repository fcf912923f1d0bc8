import Mathlib.Data.List.Forall2
import QuerySignature.Proofs.Query.Like

/-!
# Proofs/Signature/Like — like queries have one signature

A block that stands for another has its variables.  So the blocks of like queries stand for each other one for
one (`Query.blocks_of_like`), like queries have the same variable groups, and they have the same outputs
(`Query.outputs_of_like`), whatever else a likeness lets differ.
-/

namespace QuerySignature

variable {L : Likeness}

/-- What is there or not, as a list. -/
theorem forall₂_toList {α : Type} {V : α → α → Prop} {found found' : Option α} (h : Option.Rel V found found') :
    List.Forall₂ V found.toList found'.toList := by
  cases h with
  | none => exact .nil
  | some related => exact .cons related .nil

/-! ## Blocks -/

mutual

theorem Group.blocks_of_like : ∀ (group group' : Group), group.Like L group' →
    List.Forall₂ L.Stands group.blocks group'.blocks
  | .pattern elements, .pattern elements', h => Element.blocks_of_likeAll elements elements' h
  | .selection inner, .selection inner', h => SubSelect.blocks_of_like inner inner' h
termination_by structural group => group

theorem Element.blocks_of_likeAll : ∀ (list list' : List Element), Element.LikeAll L list list' →
    List.Forall₂ L.Stands (Element.blocksOfAll list) (Element.blocksOfAll list')
  | [], [], _ => .nil
  | element :: rest, element' :: rest', h =>
    List.rel_append (Element.blocks_of_like element element' h.1) (Element.blocks_of_likeAll rest rest' h.2)
termination_by structural list => list

theorem Element.blocks_of_like : ∀ (element element' : Element), element.Like L element' →
    List.Forall₂ L.Stands element.blocks element'.blocks
  | .triple _, .triple _, _ => .nil
  | .values _, .values _, h => .cons h .nil
  | .filter expression, .filter expression', h => Expression.blocks_of_like expression expression' h
  | .optional group, .optional group', h => Group.blocks_of_like group group' h
  | .nested group, .nested group', h => Group.blocks_of_like group group' h
  | .union first second others, .union first' second' others', h =>
    List.rel_append
      (List.rel_append (Group.blocks_of_like first first' h.1) (Group.blocks_of_like second second' h.2.1))
      (Group.blocks_of_likeAll others others' h.2.2)
  | .minus group, .minus group', h => Group.blocks_of_like group group' h
  | .graph _ group, .graph _ group', h => Group.blocks_of_like group group' h.2
  | .service _ _ group, .service _ _ group', h => Group.blocks_of_like group group' h.2.2
  | .bind expression _, .bind expression' _, h => Expression.blocks_of_like expression expression' h.1
termination_by structural element => element

theorem Group.blocks_of_likeAll : ∀ (list list' : List Group), Group.LikeAll L list list' →
    List.Forall₂ L.Stands (Group.blocksOfAll list) (Group.blocksOfAll list')
  | [], [], _ => .nil
  | group :: rest, group' :: rest', h =>
    List.rel_append (Group.blocks_of_like group group' h.1) (Group.blocks_of_likeAll rest rest' h.2)
termination_by structural list => list

theorem Expression.blocks_of_like : ∀ (expression expression' : Expression), expression.Like L expression' →
    List.Forall₂ L.Stands expression.blocks expression'.blocks
  | ⟨_, _, patterns⟩, ⟨_, _, patterns'⟩, h => Group.blocks_of_likeAll patterns patterns' h.2.2
termination_by structural expression => expression

theorem SubSelect.blocks_of_like : ∀ (inner inner' : SubSelect), inner.Like L inner' →
    List.Forall₂ L.Stands inner.blocks inner'.blocks
  | ⟨_, group, _, _⟩, ⟨_, group', _, _⟩, h =>
    List.rel_append (Group.blocks_of_like group group' h.2.1) (forall₂_toList h.2.2.2)
termination_by structural inner => inner

end

/-- The blocks of groups that are there or not. -/
theorem Group.blocks_of_rel {found found' : Option Group} (h : Option.Rel (Group.Like L) found found') :
    List.Forall₂ L.Stands ((found.map Group.blocks).getD []) ((found'.map Group.blocks).getD []) := by
  cases h with
  | none => exact .nil
  | some like => exact Group.blocks_of_like _ _ like

theorem Operation.group?_of_like {operation operation' : Operation} (h : operation.Like L operation') :
    Option.Rel (Group.Like L) operation.group? operation'.group? := by
  cases h with
  | manage => exact .none
  | insertData => exact .none
  | deleteData => exact .none
  | deleteWhere like => exact .some like
  | modify _ _ like => exact .some like

/-- **The blocks of like queries stand for each other**, one for one. -/
theorem Query.blocks_of_like {query query' : Query} (h : query.Like L query') :
    List.Forall₂ L.Stands query.blocks query'.blocks := by
  obtain ⟨prologue, body⟩ := query
  obtain ⟨prologue', body'⟩ := query'
  have whole {group group' : Option Group} {values values' : Option Values}
      (like : Option.Rel (Group.Like L) group group') (stands : Option.Rel L.Stands values values') :
      List.Forall₂ L.Stands ((group.map Group.blocks).getD [] ++ values.toList ++ [])
        ((group'.map Group.blocks).getD [] ++ values'.toList ++ []) :=
    List.rel_append (List.rel_append (Group.blocks_of_rel like) (forall₂_toList stands)) .nil
  obtain ⟨-, like⟩ := h
  cases like with
  | select _ group _ values => exact whole (.some group) values
  | ask group _ values => exact whole (.some group) values
  | construct group _ values => exact whole (.some group) values
  | describe group _ values => exact whole group values
  | update operations =>
    change List.Forall₂ L.Stands (List.flatMap _ _) (List.flatMap _ _)
    induction operations with
    | nil => exact .nil
    | cons first _ ih => exact List.rel_append (Group.blocks_of_rel (Operation.group?_of_like first)) ih

/-- **Like queries have the same variable groups.** -/
theorem Query.variableGroups_of_like {query query' : Query} (h : query.Like L query') :
    query'.variableGroups = query.variableGroups := by
  have blocks := Query.blocks_of_like h
  unfold Query.variableGroups
  generalize query.blocks = list, query'.blocks = list' at blocks
  induction blocks with
  | nil => rfl
  | cons first _ ih =>
    obtain ⟨_, _, stands⟩ := first
    rw [List.map_cons, List.map_cons, ih, Values.group, Values.group, L.vars stands]

/-! ## Outputs -/

/-- Like columns have one name. -/
theorem Projection.name_of_like {projection projection' : Projection} (h : projection.Like L projection') :
    projection'.name = projection.name := by
  cases projection <;> cases projection'
  · exact Eq.symm h
  · exact h.elim
  · exact h.elim
  · exact Eq.symm h.2

theorem Projection.names_of_likeAll {list list' : List Projection} (h : Projection.LikeAll L list list') :
    list'.map Projection.name = list.map Projection.name := by
  rw [Projection.likeAll_iff] at h
  induction h with
  | nil => rfl
  | cons first _ ih => rw [List.map_cons, List.map_cons, Projection.name_of_like first, ih]

mutual

theorem Group.addBound_of_like : ∀ (group group' : Group), group.Like L group' →
    ∀ names, group'.addBound names = group.addBound names
  | .pattern elements, .pattern elements', h, names => Element.addBound_of_likeAll elements elements' h names
  | .selection inner, .selection inner', h, names =>
    congrArg (addNames names) (SubSelect.outputs_of_like inner inner' h)
termination_by structural group => group

theorem Element.addBound_of_likeAll : ∀ (list list' : List Element), Element.LikeAll L list list' →
    ∀ names, Element.addBoundAll list' names = Element.addBoundAll list names
  | [], [], _, _ => rfl
  | element :: rest, element' :: rest', h, names => by
    rw [Element.addBoundAll, Element.addBoundAll, Element.addBound_of_like element element' h.1,
      Element.addBound_of_likeAll rest rest' h.2]
termination_by structural list => list

theorem Element.addBound_of_like : ∀ (element element' : Element), element.Like L element' →
    ∀ names, element'.addBound names = element.addBound names
  | .triple _, .triple _, h, names => congrArg (fun triple : Triple => addNames names triple.vars) (Eq.symm h)
  | .values _, .values _, h, names => by
    obtain ⟨_, _, stands⟩ := h
    rw [Element.addBound, Element.addBound, L.vars stands]
  | .filter _, .filter _, _, _ => rfl
  | .optional group, .optional group', h, names => Group.addBound_of_like group group' h names
  | .nested group, .nested group', h, names => Group.addBound_of_like group group' h names
  | .union first second others, .union first' second' others', h, names => by
    rw [Element.addBound, Element.addBound, Group.addBound_of_like first first' h.1,
      Group.addBound_of_like second second' h.2.1, Group.addBound_of_likeAll others others' h.2.2]
  | .minus _, .minus _, _, _ => rfl
  | .graph _ group, .graph _ group', h, names => by
    rw [Element.addBound, Element.addBound, ← h.1, Group.addBound_of_like group group' h.2]
  | .service _ _ group, .service _ _ group', h, names => Group.addBound_of_like group group' h.2.2 names
  | .bind _ _, .bind _ _, h, names => congrArg (addName names) (Eq.symm h.2)
termination_by structural element => element

theorem Group.addBound_of_likeAll : ∀ (list list' : List Group), Group.LikeAll L list list' →
    ∀ names, Group.addBoundAll list' names = Group.addBoundAll list names
  | [], [], _, _ => rfl
  | group :: rest, group' :: rest', h, names => by
    rw [Group.addBoundAll, Group.addBoundAll, Group.addBound_of_like group group' h.1,
      Group.addBound_of_likeAll rest rest' h.2]
termination_by structural list => list

theorem SubSelect.outputs_of_like : ∀ (inner inner' : SubSelect), inner.Like L inner' →
    inner'.outputs = inner.outputs
  | ⟨⟨.everything, _⟩, group, _, _⟩, ⟨⟨.everything, _⟩, group', _, _⟩, h =>
    Group.addBound_of_like group group' h.2.1 []
  | ⟨⟨.listed _, _⟩, _, _, _⟩, ⟨⟨.listed _, _⟩, _, _, _⟩, h =>
    congrArg (addNames []) (Projection.names_of_likeAll h.1.1)
termination_by structural inner => inner

end

/-- **Like queries have the same outputs.** -/
theorem Query.outputs_of_like {query query' : Query} (h : query.Like L query') : query'.outputs = query.outputs := by
  obtain ⟨prologue, body⟩ := query
  obtain ⟨prologue', body'⟩ := query'
  obtain ⟨-, like⟩ := h
  cases like with
  | @select selection selection' group group' _ _ _ _ selects like =>
    obtain ⟨projections, _⟩ := selection
    obtain ⟨projections', _⟩ := selection'
    cases projections <;> cases projections'
    · exact Group.addBound_of_like group group' like []
    · exact selects.1.elim
    · exact selects.1.elim
    · exact congrArg (addNames []) (Projection.names_of_likeAll selects.1)
  | ask => rfl
  | construct => rfl
  | describe => rfl
  | update => rfl

end QuerySignature
