import QuerySignature.Error
import QuerySignature.Proofs.Query.Exact
import QuerySignature.Proofs.Token.Place

/-!
# Proofs/Query/Unplaced — queries and failures wherever they stand

A query keeps the place of each of its blocks, and a failure the place of what is wrong.  `Query.unplaced` and
`Failure.unplaced` forget these places and nothing else.  A likeness that takes tokens and blocks for themselves, but
for their places, is faithful, and queries that are alike under it differ in the places of their blocks only
(`Likeness.Faithful.query`).
-/

namespace QuerySignature

/-! ## Queries -/

/-- The block wherever it stands. -/
def Values.unplaced (block : Values) : Values :=
  { block with span := ⟨0, 0⟩ }

mutual

/-- **The group wherever its blocks stand.** -/
def Group.unplaced : Group → Group
  | .pattern elements => .pattern (Element.unplacedAll elements)
  | .selection inner => .selection inner.unplaced

/-- Elements wherever their blocks stand. -/
def Element.unplacedAll : List Element → List Element
  | [] => []
  | element :: rest => element.unplaced :: Element.unplacedAll rest

/-- The element wherever its blocks stand. -/
def Element.unplaced : Element → Element
  | .triple triple => .triple triple
  | .values block => .values block.unplaced
  | .filter expression => .filter expression.unplaced
  | .optional group => .optional group.unplaced
  | .nested group => .nested group.unplaced
  | .union first second others => .union first.unplaced second.unplaced (Group.unplacedAll others)
  | .minus group => .minus group.unplaced
  | .graph name group => .graph name group.unplaced
  | .service silent endpoint group => .service silent endpoint group.unplaced
  | .bind expression name => .bind expression.unplaced name

/-- Groups wherever their blocks stand. -/
def Group.unplacedAll : List Group → List Group
  | [] => []
  | group :: rest => group.unplaced :: Group.unplacedAll rest

/-- The expression wherever its blocks stand. -/
def Expression.unplaced : Expression → Expression
  | ⟨text, vars, patterns⟩ => ⟨text, vars, Group.unplacedAll patterns⟩

/-- Expressions wherever their blocks stand. -/
def Expression.unplacedAll : List Expression → List Expression
  | [] => []
  | expression :: rest => expression.unplaced :: Expression.unplacedAll rest

/-- The column wherever its blocks stand. -/
def Projection.unplaced : Projection → Projection
  | .var name => .var name
  | .aliased expression name => .aliased expression.unplaced name

/-- Columns wherever their blocks stand. -/
def Projection.unplacedAll : List Projection → List Projection
  | [] => []
  | projection :: rest => projection.unplaced :: Projection.unplacedAll rest

/-- Lists of columns wherever their blocks stand. -/
def Projections.unplaced : Projections → Projections
  | .everything => .everything
  | .listed list => .listed (Projection.unplacedAll list)

/-- The selection wherever its blocks stand. -/
def Selection.unplaced : Selection → Selection
  | ⟨projections, duplicates⟩ => ⟨projections.unplaced, duplicates⟩

/-- The sort key wherever its blocks stand. -/
def OrderKey.unplaced : OrderKey → OrderKey
  | ⟨expression, descending⟩ => ⟨expression.unplaced, descending⟩

/-- Sort keys wherever their blocks stand. -/
def OrderKey.unplacedAll : List OrderKey → List OrderKey
  | [] => []
  | key :: rest => key.unplaced :: OrderKey.unplacedAll rest

/-- The modifiers wherever their blocks stand. -/
def Modifiers.unplaced : Modifiers → Modifiers
  | ⟨groupBy, having, orderBy, limit, offset⟩ =>
    ⟨Expression.unplacedAll groupBy, Expression.unplacedAll having, OrderKey.unplacedAll orderBy, limit, offset⟩

/-- The inner selection wherever its blocks stand. -/
def SubSelect.unplaced : SubSelect → SubSelect
  | ⟨selection, group, modifiers, values⟩ =>
    ⟨selection.unplaced, group.unplaced, modifiers.unplaced, values.map Values.unplaced⟩

end

/-- The operation wherever its blocks stand. -/
def Operation.unplaced : Operation → Operation
  | .manage management => .manage management
  | .insertData template => .insertData template.unplaced
  | .deleteData template => .deleteData template.unplaced
  | .deleteWhere group => .deleteWhere group.unplaced
  | .modify deleted inserted group =>
    .modify (deleted.map Group.unplaced) (inserted.map Group.unplaced) group.unplaced

/-- The body wherever its blocks stand. -/
def Query.Body.unplaced : Query.Body → Query.Body
  | .select selection group modifiers values =>
    .select selection.unplaced group.unplaced modifiers.unplaced (values.map Values.unplaced)
  | .ask group modifiers values => .ask group.unplaced modifiers.unplaced (values.map Values.unplaced)
  | .construct group modifiers values => .construct group.unplaced modifiers.unplaced (values.map Values.unplaced)
  | .describe group modifiers values =>
    .describe (group.map Group.unplaced) modifiers.unplaced (values.map Values.unplaced)
  | .update operations => .update (operations.map Operation.unplaced)

/-- **The query wherever its blocks stand.** -/
def Query.unplaced (query : Query) : Query :=
  ⟨query.prologue, query.body.unplaced⟩

/-! ## Failures -/

/-- What is found, wherever it stands. -/
def Found.unplaced : Found → Found
  | .token found => .token found.unplaced
  | .endOfInput => .endOfInput
  | .cells count => .cells count

/-- The report wherever its fault is. -/
def ParseError.unplaced : ParseError → ParseError
  | .lexical fault _ => .lexical fault .start
  | .grammar expected found _ => .grammar expected found.unplaced .start
  | .ceiling reached value maximum position => .ceiling reached value maximum (position.map fun _ => .start)

/-- **The failure wherever its fault is.** -/
def Failure.unplaced : Failure → Failure
  | .rejected error => .rejected error.unplaced
  | .unreadable term => .unreadable term

/-- **What comes of reading a text**, wherever in the text it stands. -/
def outcomeUnplaced : Except Failure Query → Except Failure Query
  | .ok query => .ok query.unplaced
  | .error failure => .error failure.unplaced

/-! ## Faithful likenesses -/

/-- **Nothing is taken for anything but itself**, perhaps elsewhere. -/
structure Likeness.Faithful (L : Likeness) : Prop where
  token : ∀ {t t' : Token}, L.ahead t t' → t'.unplaced = t.unplaced
  block : ∀ {region : Option Region} {b b' : Values} {tokens tokens' : List Token},
    L.block region b tokens b' tokens' →
      b'.unplaced = b.unplaced ∧ tokens'.map Token.unplaced = tokens.map Token.unplaced

namespace Likeness.Faithful

variable {L : Likeness}

theorem within (faithful : L.Faithful) (region : Region) : (L.within region).Faithful :=
  ⟨faithful.token, faithful.block⟩

theorem verbatim (faithful : L.Faithful) : L.Verbatim where
  token like := (Token.mk.inj (faithful.token (L.ahead_of_like like))).2.1
  block stands := by
    have texts := congrArg (List.map Token.text) (faithful.block stands).2
    rwa [List.map_map, List.map_map] at texts

theorem stands (faithful : L.Faithful) {b b' : Values} (h : L.Stands b b') : b'.unplaced = b.unplaced := by
  obtain ⟨_, _, stands⟩ := h
  exact (faithful.block stands).1

/-- Items that are there or not. -/
theorem option {α : Type} {V : α → α → Prop} {found found' : Option α} (h : Option.Rel V found found') (f : α → α)
    (same : ∀ {a a'}, V a a' → f a' = f a) : found'.map f = found.map f := by
  cases h with
  | none => rfl
  | some related => exact congrArg some (same related)

end Likeness.Faithful

mutual

theorem Group.unplaced_of_like : ∀ {L : Likeness} (_ : L.Faithful) (group group' : Group), group.Like L group' →
    group'.unplaced = group.unplaced
  | _, faithful, .pattern elements, .pattern elements', h =>
    congrArg Group.pattern (Element.unplaced_of_likeAll faithful elements elements' h)
  | _, faithful, .selection inner, .selection inner', h =>
    congrArg Group.selection (SubSelect.unplaced_of_like faithful inner inner' h)
termination_by structural _ _ group => group

theorem Element.unplaced_of_likeAll : ∀ {L : Likeness} (_ : L.Faithful) (list list' : List Element),
    Element.LikeAll L list list' → Element.unplacedAll list' = Element.unplacedAll list
  | _, _, [], [], _ => rfl
  | _, faithful, element :: rest, element' :: rest', h =>
    congrArg₂ List.cons (Element.unplaced_of_like faithful element element' h.1)
      (Element.unplaced_of_likeAll faithful rest rest' h.2)
termination_by structural _ _ list => list

theorem Element.unplaced_of_like : ∀ {L : Likeness} (_ : L.Faithful) (element element' : Element),
    element.Like L element' → element'.unplaced = element.unplaced
  | _, _, .triple _, .triple _, h => congrArg Element.triple (Eq.symm h)
  | _, faithful, .values _, .values _, h => congrArg Element.values (faithful.stands h)
  | _, faithful, .filter expression, .filter expression', h =>
    congrArg Element.filter (Expression.unplaced_of_like faithful expression expression' h)
  | _, faithful, .optional group, .optional group', h =>
    congrArg Element.optional (Group.unplaced_of_like faithful group group' h)
  | _, faithful, .nested group, .nested group', h =>
    congrArg Element.nested (Group.unplaced_of_like faithful group group' h)
  | _, faithful, .union first second others, .union first' second' others', h => by
    rw [Element.unplaced, Element.unplaced, Group.unplaced_of_like faithful first first' h.1,
      Group.unplaced_of_like faithful second second' h.2.1, Group.unplaced_of_likeAll faithful others others' h.2.2]
  | _, faithful, .minus group, .minus group', h =>
    congrArg Element.minus (Group.unplaced_of_like faithful group group' h)
  | _, faithful, .graph _ group, .graph _ group', h => by
    rw [Element.unplaced, Element.unplaced, h.1, Group.unplaced_of_like faithful group group' h.2]
  | _, faithful, .service _ _ group, .service _ _ group', h => by
    rw [Element.unplaced, Element.unplaced, h.1, h.2.1, Group.unplaced_of_like faithful group group' h.2.2]
  | _, faithful, .bind expression _, .bind expression' _, h => by
    rw [Element.unplaced, Element.unplaced, h.2, Expression.unplaced_of_like faithful expression expression' h.1]
termination_by structural _ _ element => element

theorem Group.unplaced_of_likeAll : ∀ {L : Likeness} (_ : L.Faithful) (list list' : List Group),
    Group.LikeAll L list list' → Group.unplacedAll list' = Group.unplacedAll list
  | _, _, [], [], _ => rfl
  | _, faithful, group :: rest, group' :: rest', h =>
    congrArg₂ List.cons (Group.unplaced_of_like faithful group group' h.1)
      (Group.unplaced_of_likeAll faithful rest rest' h.2)
termination_by structural _ _ list => list

theorem Expression.unplaced_of_like : ∀ {L : Likeness} (_ : L.Faithful) (expression expression' : Expression),
    expression.Like L expression' → expression'.unplaced = expression.unplaced
  | _, faithful, ⟨_, _, patterns⟩, ⟨_, _, patterns'⟩, h => by
    rw [Expression.unplaced, Expression.unplaced, faithful.verbatim.text h.1, h.2.1,
      Group.unplaced_of_likeAll faithful patterns patterns' h.2.2]
termination_by structural _ _ expression => expression

theorem Expression.unplaced_of_likeAll : ∀ {L : Likeness} (_ : L.Faithful) (list list' : List Expression),
    Expression.LikeAll L list list' → Expression.unplacedAll list' = Expression.unplacedAll list
  | _, _, [], [], _ => rfl
  | _, faithful, expression :: rest, expression' :: rest', h =>
    congrArg₂ List.cons (Expression.unplaced_of_like faithful expression expression' h.1)
      (Expression.unplaced_of_likeAll faithful rest rest' h.2)
termination_by structural _ _ list => list

theorem Projection.unplaced_of_like : ∀ {L : Likeness} (_ : L.Faithful) (projection projection' : Projection),
    projection.Like L projection' → projection'.unplaced = projection.unplaced
  | _, _, .var _, .var _, h => congrArg Projection.var (Eq.symm h)
  | _, faithful, .aliased expression _, .aliased expression' _, h => by
    rw [Projection.unplaced, Projection.unplaced, h.2,
      Expression.unplaced_of_like faithful expression expression' h.1]
termination_by structural _ _ projection => projection

theorem Projection.unplaced_of_likeAll : ∀ {L : Likeness} (_ : L.Faithful) (list list' : List Projection),
    Projection.LikeAll L list list' → Projection.unplacedAll list' = Projection.unplacedAll list
  | _, _, [], [], _ => rfl
  | _, faithful, projection :: rest, projection' :: rest', h =>
    congrArg₂ List.cons (Projection.unplaced_of_like faithful projection projection' h.1)
      (Projection.unplaced_of_likeAll faithful rest rest' h.2)
termination_by structural _ _ list => list

theorem Projections.unplaced_of_like : ∀ {L : Likeness} (_ : L.Faithful) (projections projections' : Projections),
    projections.Like L projections' → projections'.unplaced = projections.unplaced
  | _, _, .everything, .everything, _ => rfl
  | _, faithful, .listed list, .listed list', h =>
    congrArg Projections.listed (Projection.unplaced_of_likeAll (faithful.within .projection) list list' h)
termination_by structural _ _ projections => projections

theorem Selection.unplaced_of_like : ∀ {L : Likeness} (_ : L.Faithful) (selection selection' : Selection),
    selection.Like L selection' → selection'.unplaced = selection.unplaced
  | _, faithful, ⟨projections, _⟩, ⟨projections', _⟩, h => by
    rw [Selection.unplaced, Selection.unplaced, h.2,
      Projections.unplaced_of_like faithful projections projections' h.1]
termination_by structural _ _ selection => selection

theorem OrderKey.unplaced_of_like : ∀ {L : Likeness} (_ : L.Faithful) (key key' : OrderKey), key.Like L key' →
    key'.unplaced = key.unplaced
  | _, faithful, ⟨expression, _⟩, ⟨expression', _⟩, h => by
    rw [OrderKey.unplaced, OrderKey.unplaced, h.2, Expression.unplaced_of_like faithful expression expression' h.1]
termination_by structural _ _ key => key

theorem OrderKey.unplaced_of_likeAll : ∀ {L : Likeness} (_ : L.Faithful) (list list' : List OrderKey),
    OrderKey.LikeAll L list list' → OrderKey.unplacedAll list' = OrderKey.unplacedAll list
  | _, _, [], [], _ => rfl
  | _, faithful, key :: rest, key' :: rest', h =>
    congrArg₂ List.cons (OrderKey.unplaced_of_like faithful key key' h.1)
      (OrderKey.unplaced_of_likeAll faithful rest rest' h.2)
termination_by structural _ _ list => list

theorem Modifiers.unplaced_of_like : ∀ {L : Likeness} (_ : L.Faithful) (modifiers modifiers' : Modifiers),
    modifiers.Like L modifiers' → modifiers'.unplaced = modifiers.unplaced
  | _, faithful, ⟨groupBy, having, orderBy, _, _⟩, ⟨groupBy', having', orderBy', _, _⟩, h => by
    rw [Modifiers.unplaced, Modifiers.unplaced,
      Expression.unplaced_of_likeAll (faithful.within .grouping) groupBy groupBy' h.1,
      Expression.unplaced_of_likeAll (faithful.within .having) having having' h.2.1,
      OrderKey.unplaced_of_likeAll (faithful.within .ordering) orderBy orderBy' h.2.2.1,
      Likeness.Exact.option faithful.verbatim.slice h.2.2.2.1, Likeness.Exact.option faithful.verbatim.slice h.2.2.2.2]
termination_by structural _ _ modifiers => modifiers

theorem SubSelect.unplaced_of_like : ∀ {L : Likeness} (_ : L.Faithful) (inner inner' : SubSelect),
    inner.Like L inner' → inner'.unplaced = inner.unplaced
  | _, faithful, ⟨selection, group, modifiers, _⟩, ⟨selection', group', modifiers', _⟩, h => by
    rw [SubSelect.unplaced, SubSelect.unplaced, Selection.unplaced_of_like faithful selection selection' h.1,
      Group.unplaced_of_like faithful group group' h.2.1,
      Modifiers.unplaced_of_like faithful modifiers modifiers' h.2.2.1,
      Likeness.Faithful.option h.2.2.2 Values.unplaced faithful.stands]
termination_by structural _ _ inner => inner

end

/-! ## Queries and faults -/

namespace Likeness.Faithful

variable {L : Likeness}

theorem operation (faithful : L.Faithful) {operation operation' : Operation} (h : operation.Like L operation') :
    operation'.unplaced = operation.unplaced := by
  have template {group group' : Group} (h : group.Like (L.within .template) group') :
      group'.unplaced = group.unplaced :=
    Group.unplaced_of_like (faithful.within .template) group group' h
  cases h with
  | manage => rfl
  | insertData like => exact congrArg Operation.insertData (template like)
  | deleteData like => exact congrArg Operation.deleteData (template like)
  | deleteWhere like => exact congrArg Operation.deleteWhere (Group.unplaced_of_like faithful _ _ like)
  | modify deleted inserted like =>
    rw [Operation.unplaced, Operation.unplaced, option deleted _ template, option inserted _ template,
      Group.unplaced_of_like faithful _ _ like]

theorem body (faithful : L.Faithful) {body body' : Query.Body} (h : body.Like L body') :
    body'.unplaced = body.unplaced := by
  have group {group group' : Group} (h : group.Like L group') : group'.unplaced = group.unplaced :=
    Group.unplaced_of_like faithful group group' h
  have modifiers {modifiers modifiers' : Modifiers} (h : modifiers.Like L modifiers') :
      modifiers'.unplaced = modifiers.unplaced :=
    Modifiers.unplaced_of_like faithful modifiers modifiers' h
  cases h with
  | select selection like mods values =>
    rw [Query.Body.unplaced, Query.Body.unplaced, Selection.unplaced_of_like faithful _ _ selection, group like,
      modifiers mods, option values _ faithful.stands]
  | ask like mods values =>
    rw [Query.Body.unplaced, Query.Body.unplaced, group like, modifiers mods, option values _ faithful.stands]
  | construct like mods values =>
    rw [Query.Body.unplaced, Query.Body.unplaced, group like, modifiers mods, option values _ faithful.stands]
  | describe like mods values =>
    rw [Query.Body.unplaced, Query.Body.unplaced, option like _ group, modifiers mods, option values _ faithful.stands]
  | update operations =>
    refine congrArg Query.Body.update ?_
    induction operations with
    | nil => rfl
    | cons first _ ih => exact congrArg₂ List.cons (faithful.operation first) ih

/-- **Queries that are alike under a faithful likeness** differ in the places of their blocks only. -/
theorem query (faithful : L.Faithful) {query query' : Query} (h : query.Like L query') :
    query'.unplaced = query.unplaced :=
  congrArg₂ Query.mk h.prologue (faithful.body h.body)

end Likeness.Faithful

end QuerySignature
