import QuerySignature.Proofs.Query.Unplaced

/-!
# Proofs/Query/Blurred — queries with something forgotten

Two queries from like tokens are not the same where a likeness lets the tokens differ.  A `Blur` says what is forgotten
of the texts of expressions, of the slices and of the blocks of a query, wherever they stand in it (`Query.blurred`).
If it absorbs a likeness, queries that are alike under that likeness are the same once they are blurred
(`Blur.Absorbs.query`).
-/

namespace QuerySignature

/-- **What is forgotten of a query**: what becomes of the text of an expression, of a slice and of a block. -/
structure Blur where
  text : Text → Text
  slice : Slice → Slice
  block : Values → Values

/-! ## Queries -/

mutual

/-- **The group, blurred.** -/
def Group.blurred (blur : Blur) : Group → Group
  | .pattern elements => .pattern (Element.blurredAll blur elements)
  | .selection inner => .selection (inner.blurred blur)

/-- Elements, blurred. -/
def Element.blurredAll (blur : Blur) : List Element → List Element
  | [] => []
  | element :: rest => element.blurred blur :: Element.blurredAll blur rest

/-- The element, blurred. -/
def Element.blurred (blur : Blur) : Element → Element
  | .triple triple => .triple triple
  | .values block => .values (blur.block block)
  | .filter expression => .filter (expression.blurred blur)
  | .optional group => .optional (group.blurred blur)
  | .nested group => .nested (group.blurred blur)
  | .union first second others =>
    .union (first.blurred blur) (second.blurred blur) (Group.blurredAll blur others)
  | .minus group => .minus (group.blurred blur)
  | .graph name group => .graph name (group.blurred blur)
  | .service silent endpoint group => .service silent endpoint (group.blurred blur)
  | .bind expression name => .bind (expression.blurred blur) name

/-- Groups, blurred. -/
def Group.blurredAll (blur : Blur) : List Group → List Group
  | [] => []
  | group :: rest => group.blurred blur :: Group.blurredAll blur rest

/-- The expression, blurred. -/
def Expression.blurred (blur : Blur) : Expression → Expression
  | ⟨text, vars, patterns⟩ => ⟨blur.text text, vars, Group.blurredAll blur patterns⟩

/-- Expressions, blurred. -/
def Expression.blurredAll (blur : Blur) : List Expression → List Expression
  | [] => []
  | expression :: rest => expression.blurred blur :: Expression.blurredAll blur rest

/-- The column, blurred. -/
def Projection.blurred (blur : Blur) : Projection → Projection
  | .var name => .var name
  | .aliased expression name => .aliased (expression.blurred blur) name

/-- Columns, blurred. -/
def Projection.blurredAll (blur : Blur) : List Projection → List Projection
  | [] => []
  | projection :: rest => projection.blurred blur :: Projection.blurredAll blur rest

/-- Lists of columns, blurred. -/
def Projections.blurred (blur : Blur) : Projections → Projections
  | .everything => .everything
  | .listed list => .listed (Projection.blurredAll blur list)

/-- The selection, blurred. -/
def Selection.blurred (blur : Blur) : Selection → Selection
  | ⟨projections, duplicates⟩ => ⟨projections.blurred blur, duplicates⟩

/-- The sort key, blurred. -/
def OrderKey.blurred (blur : Blur) : OrderKey → OrderKey
  | ⟨expression, descending⟩ => ⟨expression.blurred blur, descending⟩

/-- Sort keys, blurred. -/
def OrderKey.blurredAll (blur : Blur) : List OrderKey → List OrderKey
  | [] => []
  | key :: rest => key.blurred blur :: OrderKey.blurredAll blur rest

/-- The modifiers, blurred. -/
def Modifiers.blurred (blur : Blur) : Modifiers → Modifiers
  | ⟨groupBy, having, orderBy, limit, offset⟩ =>
    ⟨Expression.blurredAll blur groupBy, Expression.blurredAll blur having, OrderKey.blurredAll blur orderBy,
      limit.map blur.slice, offset.map blur.slice⟩

/-- The inner selection, blurred. -/
def SubSelect.blurred (blur : Blur) : SubSelect → SubSelect
  | ⟨selection, group, modifiers, values⟩ =>
    ⟨selection.blurred blur, group.blurred blur, modifiers.blurred blur, values.map blur.block⟩

end

/-- The operation, blurred. -/
def Operation.blurred (blur : Blur) : Operation → Operation
  | .manage management => .manage management
  | .insertData template => .insertData (template.blurred blur)
  | .deleteData template => .deleteData (template.blurred blur)
  | .deleteWhere group => .deleteWhere (group.blurred blur)
  | .modify deleted inserted group =>
    .modify (deleted.map (Group.blurred blur)) (inserted.map (Group.blurred blur)) (group.blurred blur)

/-- The body, blurred. -/
def Query.Body.blurred (blur : Blur) : Query.Body → Query.Body
  | .select selection group modifiers values =>
    .select (selection.blurred blur) (group.blurred blur) (modifiers.blurred blur) (values.map blur.block)
  | .ask group modifiers values => .ask (group.blurred blur) (modifiers.blurred blur) (values.map blur.block)
  | .construct group modifiers values =>
    .construct (group.blurred blur) (modifiers.blurred blur) (values.map blur.block)
  | .describe group modifiers values =>
    .describe (group.map (Group.blurred blur)) (modifiers.blurred blur) (values.map blur.block)
  | .update operations => .update (operations.map (Operation.blurred blur))

/-- **The query, blurred.** -/
def Query.blurred (blur : Blur) (query : Query) : Query :=
  ⟨query.prologue, query.body.blurred blur⟩

/-! ## Likenesses that are absorbed -/

/-- **The likeness as it is seen from somewhere in a query**: from outside all regions or from inside one. -/
inductive Likeness.Seen (L : Likeness) : Likeness → Prop where
  | outside : Seen L L
  | inside (region : Region) : Seen L (L.within region)

/-- Regions inside a region are that region. -/
theorem Likeness.Seen.of_within {L M : Likeness} {region : Region} (seen : (L.within region).Seen M) : L.Seen M := by
  cases seen with
  | outside => exact .inside region
  | inside inner => exact .inside region

/-- **A blur absorbs a likeness** if it forgets every difference that the likeness makes in texts, slices and
blocks. -/
structure Blur.Absorbs (blur : Blur) (L : Likeness) : Prop where
  text : ∀ {M : Likeness} {text text' : Text}, L.Seen M → TextLike M text text' → blur.text text' = blur.text text
  slice : ∀ {M : Likeness} {slice slice' : Slice}, L.Seen M → slice.Like M slice' → blur.slice slice' = blur.slice slice
  block : ∀ {region : Option Region} {b b' : Values} {tokens tokens' : List Token},
    L.block region b tokens b' tokens' → blur.block b' = blur.block b

namespace Blur.Absorbs

variable {blur : Blur} {L : Likeness}

theorem within (absorbs : blur.Absorbs L) (region : Region) : blur.Absorbs (L.within region) where
  text seen := absorbs.text seen.of_within
  slice seen := absorbs.slice seen.of_within
  block := absorbs.block

theorem stands (absorbs : blur.Absorbs L) {b b' : Values} (h : L.Stands b b') : blur.block b' = blur.block b := by
  obtain ⟨_, _, stands⟩ := h
  exact absorbs.block stands

theorem slices (absorbs : blur.Absorbs L) {slice slice' : Option Slice} (h : Option.Rel (Slice.Like L) slice slice') :
    slice'.map blur.slice = slice.map blur.slice :=
  Likeness.Faithful.option h blur.slice (absorbs.slice .outside)

end Blur.Absorbs

mutual

theorem Group.blurred_of_like : ∀ {blur : Blur} {L : Likeness} (_ : blur.Absorbs L) (group group' : Group),
    group.Like L group' → group'.blurred blur = group.blurred blur
  | _, _, absorbs, .pattern elements, .pattern elements', h =>
    congrArg Group.pattern (Element.blurred_of_likeAll absorbs elements elements' h)
  | _, _, absorbs, .selection inner, .selection inner', h =>
    congrArg Group.selection (SubSelect.blurred_of_like absorbs inner inner' h)
termination_by structural _ _ _ group => group

theorem Element.blurred_of_likeAll : ∀ {blur : Blur} {L : Likeness} (_ : blur.Absorbs L) (list list' : List Element),
    Element.LikeAll L list list' → Element.blurredAll blur list' = Element.blurredAll blur list
  | _, _, _, [], [], _ => rfl
  | _, _, absorbs, element :: rest, element' :: rest', h =>
    congrArg₂ List.cons (Element.blurred_of_like absorbs element element' h.1)
      (Element.blurred_of_likeAll absorbs rest rest' h.2)
termination_by structural _ _ _ list => list

theorem Element.blurred_of_like : ∀ {blur : Blur} {L : Likeness} (_ : blur.Absorbs L) (element element' : Element),
    element.Like L element' → element'.blurred blur = element.blurred blur
  | _, _, _, .triple _, .triple _, h => congrArg Element.triple (Eq.symm h)
  | _, _, absorbs, .values _, .values _, h => congrArg Element.values (absorbs.stands h)
  | _, _, absorbs, .filter expression, .filter expression', h =>
    congrArg Element.filter (Expression.blurred_of_like absorbs expression expression' h)
  | _, _, absorbs, .optional group, .optional group', h =>
    congrArg Element.optional (Group.blurred_of_like absorbs group group' h)
  | _, _, absorbs, .nested group, .nested group', h =>
    congrArg Element.nested (Group.blurred_of_like absorbs group group' h)
  | _, _, absorbs, .union first second others, .union first' second' others', h => by
    rw [Element.blurred, Element.blurred, Group.blurred_of_like absorbs first first' h.1,
      Group.blurred_of_like absorbs second second' h.2.1, Group.blurred_of_likeAll absorbs others others' h.2.2]
  | _, _, absorbs, .minus group, .minus group', h =>
    congrArg Element.minus (Group.blurred_of_like absorbs group group' h)
  | _, _, absorbs, .graph _ group, .graph _ group', h => by
    rw [Element.blurred, Element.blurred, h.1, Group.blurred_of_like absorbs group group' h.2]
  | _, _, absorbs, .service _ _ group, .service _ _ group', h => by
    rw [Element.blurred, Element.blurred, h.1, h.2.1, Group.blurred_of_like absorbs group group' h.2.2]
  | _, _, absorbs, .bind expression _, .bind expression' _, h => by
    rw [Element.blurred, Element.blurred, h.2, Expression.blurred_of_like absorbs expression expression' h.1]
termination_by structural _ _ _ element => element

theorem Group.blurred_of_likeAll : ∀ {blur : Blur} {L : Likeness} (_ : blur.Absorbs L) (list list' : List Group),
    Group.LikeAll L list list' → Group.blurredAll blur list' = Group.blurredAll blur list
  | _, _, _, [], [], _ => rfl
  | _, _, absorbs, group :: rest, group' :: rest', h =>
    congrArg₂ List.cons (Group.blurred_of_like absorbs group group' h.1)
      (Group.blurred_of_likeAll absorbs rest rest' h.2)
termination_by structural _ _ _ list => list

theorem Expression.blurred_of_like : ∀ {blur : Blur} {L : Likeness} (_ : blur.Absorbs L)
    (expression expression' : Expression), expression.Like L expression' →
    expression'.blurred blur = expression.blurred blur
  | _, _, absorbs, ⟨_, _, patterns⟩, ⟨_, _, patterns'⟩, h => by
    rw [Expression.blurred, Expression.blurred, absorbs.text .outside h.1, h.2.1,
      Group.blurred_of_likeAll absorbs patterns patterns' h.2.2]
termination_by structural _ _ _ expression => expression

theorem Expression.blurred_of_likeAll : ∀ {blur : Blur} {L : Likeness} (_ : blur.Absorbs L)
    (list list' : List Expression), Expression.LikeAll L list list' →
    Expression.blurredAll blur list' = Expression.blurredAll blur list
  | _, _, _, [], [], _ => rfl
  | _, _, absorbs, expression :: rest, expression' :: rest', h =>
    congrArg₂ List.cons (Expression.blurred_of_like absorbs expression expression' h.1)
      (Expression.blurred_of_likeAll absorbs rest rest' h.2)
termination_by structural _ _ _ list => list

theorem Projection.blurred_of_like : ∀ {blur : Blur} {L : Likeness} (_ : blur.Absorbs L)
    (projection projection' : Projection), projection.Like L projection' →
    projection'.blurred blur = projection.blurred blur
  | _, _, _, .var _, .var _, h => congrArg Projection.var (Eq.symm h)
  | _, _, absorbs, .aliased expression _, .aliased expression' _, h => by
    rw [Projection.blurred, Projection.blurred, h.2, Expression.blurred_of_like absorbs expression expression' h.1]
termination_by structural _ _ _ projection => projection

theorem Projection.blurred_of_likeAll : ∀ {blur : Blur} {L : Likeness} (_ : blur.Absorbs L)
    (list list' : List Projection), Projection.LikeAll L list list' →
    Projection.blurredAll blur list' = Projection.blurredAll blur list
  | _, _, _, [], [], _ => rfl
  | _, _, absorbs, projection :: rest, projection' :: rest', h =>
    congrArg₂ List.cons (Projection.blurred_of_like absorbs projection projection' h.1)
      (Projection.blurred_of_likeAll absorbs rest rest' h.2)
termination_by structural _ _ _ list => list

theorem Projections.blurred_of_like : ∀ {blur : Blur} {L : Likeness} (_ : blur.Absorbs L)
    (projections projections' : Projections), projections.Like L projections' →
    projections'.blurred blur = projections.blurred blur
  | _, _, _, .everything, .everything, _ => rfl
  | _, _, absorbs, .listed list, .listed list', h =>
    congrArg Projections.listed (Projection.blurred_of_likeAll (absorbs.within .projection) list list' h)
termination_by structural _ _ _ projections => projections

theorem Selection.blurred_of_like : ∀ {blur : Blur} {L : Likeness} (_ : blur.Absorbs L)
    (selection selection' : Selection), selection.Like L selection' →
    selection'.blurred blur = selection.blurred blur
  | _, _, absorbs, ⟨projections, _⟩, ⟨projections', _⟩, h => by
    rw [Selection.blurred, Selection.blurred, h.2, Projections.blurred_of_like absorbs projections projections' h.1]
termination_by structural _ _ _ selection => selection

theorem OrderKey.blurred_of_like : ∀ {blur : Blur} {L : Likeness} (_ : blur.Absorbs L) (key key' : OrderKey),
    key.Like L key' → key'.blurred blur = key.blurred blur
  | _, _, absorbs, ⟨expression, _⟩, ⟨expression', _⟩, h => by
    rw [OrderKey.blurred, OrderKey.blurred, h.2, Expression.blurred_of_like absorbs expression expression' h.1]
termination_by structural _ _ _ key => key

theorem OrderKey.blurred_of_likeAll : ∀ {blur : Blur} {L : Likeness} (_ : blur.Absorbs L)
    (list list' : List OrderKey), OrderKey.LikeAll L list list' →
    OrderKey.blurredAll blur list' = OrderKey.blurredAll blur list
  | _, _, _, [], [], _ => rfl
  | _, _, absorbs, key :: rest, key' :: rest', h =>
    congrArg₂ List.cons (OrderKey.blurred_of_like absorbs key key' h.1)
      (OrderKey.blurred_of_likeAll absorbs rest rest' h.2)
termination_by structural _ _ _ list => list

theorem Modifiers.blurred_of_like : ∀ {blur : Blur} {L : Likeness} (_ : blur.Absorbs L)
    (modifiers modifiers' : Modifiers), modifiers.Like L modifiers' →
    modifiers'.blurred blur = modifiers.blurred blur
  | _, _, absorbs, ⟨groupBy, having, orderBy, _, _⟩, ⟨groupBy', having', orderBy', _, _⟩, h => by
    rw [Modifiers.blurred, Modifiers.blurred,
      Expression.blurred_of_likeAll (absorbs.within .grouping) groupBy groupBy' h.1,
      Expression.blurred_of_likeAll (absorbs.within .having) having having' h.2.1,
      OrderKey.blurred_of_likeAll (absorbs.within .ordering) orderBy orderBy' h.2.2.1,
      absorbs.slices h.2.2.2.1, absorbs.slices h.2.2.2.2]
termination_by structural _ _ _ modifiers => modifiers

theorem SubSelect.blurred_of_like : ∀ {blur : Blur} {L : Likeness} (_ : blur.Absorbs L) (inner inner' : SubSelect),
    inner.Like L inner' → inner'.blurred blur = inner.blurred blur
  | _, _, absorbs, ⟨selection, group, modifiers, _⟩, ⟨selection', group', modifiers', _⟩, h => by
    rw [SubSelect.blurred, SubSelect.blurred, Selection.blurred_of_like absorbs selection selection' h.1,
      Group.blurred_of_like absorbs group group' h.2.1, Modifiers.blurred_of_like absorbs modifiers modifiers' h.2.2.1,
      Likeness.Faithful.option h.2.2.2 _ absorbs.stands]
termination_by structural _ _ _ inner => inner

end

namespace Blur.Absorbs

variable {blur : Blur} {L : Likeness}

theorem operation (absorbs : blur.Absorbs L) {operation operation' : Operation} (h : operation.Like L operation') :
    operation'.blurred blur = operation.blurred blur := by
  have template {group group' : Group} (h : group.Like (L.within .template) group') :
      group'.blurred blur = group.blurred blur :=
    Group.blurred_of_like (absorbs.within .template) group group' h
  cases h with
  | manage => rfl
  | insertData like => exact congrArg Operation.insertData (template like)
  | deleteData like => exact congrArg Operation.deleteData (template like)
  | deleteWhere like => exact congrArg Operation.deleteWhere (Group.blurred_of_like absorbs _ _ like)
  | modify deleted inserted like =>
    rw [Operation.blurred, Operation.blurred, Likeness.Faithful.option deleted _ template,
      Likeness.Faithful.option inserted _ template, Group.blurred_of_like absorbs _ _ like]

theorem body (absorbs : blur.Absorbs L) {body body' : Query.Body} (h : body.Like L body') :
    body'.blurred blur = body.blurred blur := by
  have group {group group' : Group} (h : group.Like L group') : group'.blurred blur = group.blurred blur :=
    Group.blurred_of_like absorbs group group' h
  have modifiers {modifiers modifiers' : Modifiers} (h : modifiers.Like L modifiers') :
      modifiers'.blurred blur = modifiers.blurred blur :=
    Modifiers.blurred_of_like absorbs modifiers modifiers' h
  have values {values values' : Option Values} (h : Option.Rel L.Stands values values') :
      values'.map blur.block = values.map blur.block :=
    Likeness.Faithful.option h _ absorbs.stands
  cases h with
  | select selection like mods block =>
    rw [Query.Body.blurred, Query.Body.blurred, Selection.blurred_of_like absorbs _ _ selection, group like,
      modifiers mods, values block]
  | ask like mods block => rw [Query.Body.blurred, Query.Body.blurred, group like, modifiers mods, values block]
  | construct like mods block => rw [Query.Body.blurred, Query.Body.blurred, group like, modifiers mods, values block]
  | describe like mods block =>
    rw [Query.Body.blurred, Query.Body.blurred, Likeness.Faithful.option like _ group, modifiers mods, values block]
  | update operations =>
    refine congrArg Query.Body.update ?_
    induction operations with
    | nil => rfl
    | cons first _ ih => exact congrArg₂ List.cons (absorbs.operation first) ih

/-- **Queries that are alike under a likeness that is absorbed** are the same once they are blurred. -/
theorem query (absorbs : blur.Absorbs L) {query query' : Query} (h : query.Like L query') :
    query'.blurred blur = query.blurred blur :=
  congrArg₂ Query.mk h.prologue (absorbs.body h.body)

end Blur.Absorbs

end QuerySignature
