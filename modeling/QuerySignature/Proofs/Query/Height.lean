import QuerySignature.Query.Pattern

/-!
# Proofs/Query/Height — how deep a query nests

The parts of a query that stand in brackets of their own are groups, property lists and collections.  The
height of a part is how many of them, counted together, lie on one way down into it; the ways lead through
the groups that expressions test, too.
-/

namespace QuerySignature

mutual

/-- **The height of a node.** -/
def Node.height : Node → Nat
  | .properties list => Node.heightOfProperties list + 1
  | .collection items => Node.heightOfItems items + 1
  | _ => 0

/-- The height of the objects of verbs. -/
def Node.heightOfProperties : List (Verb × Node) → Nat
  | [] => 0
  | (_, object) :: rest => max object.height (Node.heightOfProperties rest)

/-- The height of the items of a collection. -/
def Node.heightOfItems : List Node → Nat
  | [] => 0
  | item :: rest => max item.height (Node.heightOfItems rest)

end

/-- The height of a triple. -/
def Triple.height (triple : Triple) : Nat :=
  max triple.subject.height triple.object.height

mutual

/-- **The height of a group.** -/
def Group.height : Group → Nat
  | .pattern elements => Element.heightOfAll elements + 1
  | .selection inner => inner.height + 1

/-- The height of elements. -/
def Element.heightOfAll : List Element → Nat
  | [] => 0
  | element :: rest => max element.height (Element.heightOfAll rest)

/-- The height of an element. -/
def Element.height : Element → Nat
  | .triple triple => triple.height
  | .values _ => 0
  | .filter expression => expression.height
  | .optional group => group.height
  | .nested group => group.height
  | .union first second others => max first.height (max second.height (Group.heightOfAll others))
  | .minus group => group.height
  | .graph _ group => group.height
  | .service _ _ group => group.height
  | .bind expression _ => expression.height

/-- The height of groups. -/
def Group.heightOfAll : List Group → Nat
  | [] => 0
  | group :: rest => max group.height (Group.heightOfAll rest)

/-- The height of the groups that an expression tests. -/
def Expression.height : Expression → Nat
  | ⟨_, _, patterns⟩ => Group.heightOfAll patterns

/-- The height of expressions. -/
def Expression.heightOfAll : List Expression → Nat
  | [] => 0
  | expression :: rest => max expression.height (Expression.heightOfAll rest)

/-- The height of a column. -/
def Projection.height : Projection → Nat
  | .var _ => 0
  | .aliased expression _ => expression.height

/-- The height of columns. -/
def Projection.heightOfAll : List Projection → Nat
  | [] => 0
  | projection :: rest => max projection.height (Projection.heightOfAll rest)

/-- The height of the columns of a selection. -/
def Projections.height : Projections → Nat
  | .everything => 0
  | .listed list => Projection.heightOfAll list

/-- The height of a selection. -/
def Selection.height : Selection → Nat
  | ⟨projections, _⟩ => projections.height

/-- The height of a sort key. -/
def OrderKey.height : OrderKey → Nat
  | ⟨expression, _⟩ => expression.height

/-- The height of sort keys. -/
def OrderKey.heightOfAll : List OrderKey → Nat
  | [] => 0
  | key :: rest => max key.height (OrderKey.heightOfAll rest)

/-- The height of modifiers. -/
def Modifiers.height : Modifiers → Nat
  | ⟨groupBy, having, orderBy, _, _⟩ =>
    max (Expression.heightOfAll groupBy) (max (Expression.heightOfAll having) (OrderKey.heightOfAll orderBy))

/-- The height of an inner selection. -/
def SubSelect.height : SubSelect → Nat
  | ⟨selection, group, modifiers, _⟩ => max selection.height (max group.height modifiers.height)

end

/-- The height of a group, if there is one. -/
def Group.heightOf? : Option Group → Nat
  | some group => group.height
  | none => 0

/-- The height of an operation, its templates included. -/
def Operation.height : Operation → Nat
  | .manage _ => 0
  | .insertData template => template.height
  | .deleteData template => template.height
  | .deleteWhere group => group.height
  | .modify deleted inserted group => max (Group.heightOf? deleted) (max (Group.heightOf? inserted) group.height)

/-- The height of operations. -/
def Operation.heightOfAll : List Operation → Nat
  | [] => 0
  | operation :: rest => max operation.height (Operation.heightOfAll rest)

/-- The height of a body. -/
def Query.Body.height : Query.Body → Nat
  | .select selection group modifiers _ => max selection.height (max group.height modifiers.height)
  | .ask group modifiers _ => max group.height modifiers.height
  | .construct group modifiers _ => max group.height modifiers.height
  | .describe group modifiers _ => max (Group.heightOf? group) modifiers.height
  | .update operations => Operation.heightOfAll operations

/-- **The height of a query.** -/
def Query.height (query : Query) : Nat :=
  query.body.height

/-! ## Below a ceiling -/

/-- **There is room for the height** at the depth. -/
def Fits (ceiling depth height : Nat) : Prop :=
  depth + height ≤ ceiling

section Fits

variable {ceiling depth height height' : Nat} {α : Type}

theorem Fits.zero (h : depth ≤ ceiling) : Fits ceiling depth 0 := h

theorem Fits.max (h : Fits ceiling depth height) (h' : Fits ceiling depth height') :
    Fits ceiling depth (max height height') := by
  unfold Fits at *
  omega

/-- The greatest height of a list fits if each height does. -/
theorem Fits.all {f : List α → Nat} {g : α → Nat} (nil : f [] = 0)
    (cons : ∀ a rest, f (a :: rest) = Max.max (g a) (f rest)) (low : depth ≤ ceiling) {list : List α}
    (h : ∀ a ∈ list, Fits ceiling depth (g a)) : Fits ceiling depth (f list) := by
  induction list with
  | nil => exact nil ▸ .zero low
  | cons a rest ih =>
    rw [List.forall_mem_cons] at h
    rw [cons]
    exact h.1.max (ih h.2)

/-- Each height of a list fits if the greatest one does. -/
theorem Fits.of_mem {f : List α → Nat} {g : α → Nat} (cons : ∀ a rest, f (a :: rest) = Max.max (g a) (f rest))
    {list : List α} (h : Fits ceiling depth (f list)) : ∀ a ∈ list, Fits ceiling depth (g a) := by
  induction list with
  | nil => exact fun _ member => nomatch member
  | cons a rest ih =>
    rw [cons] at h
    unfold Fits at *
    refine List.forall_mem_cons.mpr ⟨by omega, ih (by omega)⟩

/-- A level that is opened and closed again. -/
theorem Fits.succ (h : Fits ceiling (depth + 1) height) : Fits ceiling depth (height + 1) := by
  unfold Fits at *
  omega

/-- What fits around a level fits. -/
theorem Fits.lower (h : Fits ceiling depth (height + 1)) : Fits ceiling depth height :=
  Nat.le_of_succ_le h

end Fits

end QuerySignature
