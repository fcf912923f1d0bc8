import QuerySignature.Proofs.Reading.Likeness
import QuerySignature.Reading.Expression
import QuerySignature.Signature.Blocks

/-!
# Proofs/Query/Like — queries from like tokens

Two queries are alike if they differ only where a likeness lets their tokens differ: in which block stands
where, and in texts that are kept as written.  Parts inside a region are alike as seen from within it.
-/

namespace QuerySignature

/-- **Texts of expressions**, from tokens of which one run takes those for those of the other. -/
inductive TextLike (L : Likeness) : Text → Text → Prop where
  | spaced {tokens tokens' : List Token} : Respelled L tokens tokens' →
      TextLike L (Token.spaced tokens) (Token.spaced tokens')
  | call {name name' : Token} {text text' : Text} : L.like name name' → TextLike L text text' →
      TextLike L (name.text ++ '(' :: text ++ [')']) (name'.text ++ '(' :: text' ++ [')'])
  | named {var var' : Token} {text text' : Text} : L.like var var' → TextLike L text text' →
      TextLike L ('(' :: text ++ " AS ".toList ++ var.text ++ [')'])
        ('(' :: text' ++ " AS ".toList ++ var'.text ++ [')'])

/-- Slices of one number. -/
structure Slice.Like (L : Likeness) (slice slice' : Slice) : Prop where
  keyword : ∃ t t', L.like t t' ∧ slice.keyword = t.text ∧ slice'.keyword = t'.text
  lexical : slice'.lexical = slice.lexical
  value : slice'.value = slice.value

mutual

/-- **Groups from like tokens.** -/
def Group.Like : Likeness → Group → Group → Prop
  | L, .pattern elements, .pattern elements' => Element.LikeAll L elements elements'
  | L, .selection inner, .selection inner' => inner.Like L inner'
  | _, _, _ => False
termination_by structural _ first => first

/-- Elements from like tokens, one for one. -/
def Element.LikeAll : Likeness → List Element → List Element → Prop
  | _, [], [] => True
  | L, element :: rest, element' :: rest' => element.Like L element' ∧ Element.LikeAll L rest rest'
  | _, _, _ => False
termination_by structural _ first => first

/-- Elements from like tokens. -/
def Element.Like : Likeness → Element → Element → Prop
  | _, .triple triple, .triple triple' => triple = triple'
  | L, .values block, .values block' => L.Stands block block'
  | L, .filter expression, .filter expression' => expression.Like L expression'
  | L, .optional group, .optional group' => group.Like L group'
  | L, .nested group, .nested group' => group.Like L group'
  | L, .union first second others, .union first' second' others' =>
    first.Like L first' ∧ second.Like L second' ∧ Group.LikeAll L others others'
  | L, .minus group, .minus group' => group.Like L group'
  | L, .graph name group, .graph name' group' => name = name' ∧ group.Like L group'
  | L, .service silent endpoint group, .service silent' endpoint' group' =>
    silent = silent' ∧ endpoint = endpoint' ∧ group.Like L group'
  | L, .bind expression name, .bind expression' name' => expression.Like L expression' ∧ name = name'
  | _, _, _ => False
termination_by structural _ first => first

/-- Groups from like tokens, one for one. -/
def Group.LikeAll : Likeness → List Group → List Group → Prop
  | _, [], [] => True
  | L, group :: rest, group' :: rest' => group.Like L group' ∧ Group.LikeAll L rest rest'
  | _, _, _ => False
termination_by structural _ first => first

/-- Expressions from like tokens. -/
def Expression.Like : Likeness → Expression → Expression → Prop
  | L, ⟨text, vars, patterns⟩, ⟨text', vars', patterns'⟩ =>
    TextLike L text text' ∧ vars = vars' ∧ Group.LikeAll L patterns patterns'
termination_by structural _ first => first

/-- Expressions from like tokens, one for one. -/
def Expression.LikeAll : Likeness → List Expression → List Expression → Prop
  | _, [], [] => True
  | L, expression :: rest, expression' :: rest' =>
    expression.Like L expression' ∧ Expression.LikeAll L rest rest'
  | _, _, _ => False
termination_by structural _ first => first

/-- Columns from like tokens. -/
def Projection.Like : Likeness → Projection → Projection → Prop
  | _, .var name, .var name' => name = name'
  | L, .aliased expression name, .aliased expression' name' => expression.Like L expression' ∧ name = name'
  | _, _, _ => False
termination_by structural _ first => first

/-- Columns from like tokens, one for one. -/
def Projection.LikeAll : Likeness → List Projection → List Projection → Prop
  | _, [], [] => True
  | L, projection :: rest, projection' :: rest' =>
    projection.Like L projection' ∧ Projection.LikeAll L rest rest'
  | _, _, _ => False
termination_by structural _ first => first

/-- Lists of columns from like tokens. -/
def Projections.Like : Likeness → Projections → Projections → Prop
  | _, .everything, .everything => True
  | L, .listed list, .listed list' => Projection.LikeAll (L.within .projection) list list'
  | _, _, _ => False
termination_by structural _ first => first

/-- Selections from like tokens. -/
def Selection.Like : Likeness → Selection → Selection → Prop
  | L, ⟨projections, duplicates⟩, ⟨projections', duplicates'⟩ =>
    projections.Like L projections' ∧ duplicates = duplicates'
termination_by structural _ first => first

/-- Sort keys from like tokens. -/
def OrderKey.Like : Likeness → OrderKey → OrderKey → Prop
  | L, ⟨expression, descending⟩, ⟨expression', descending'⟩ =>
    expression.Like L expression' ∧ descending = descending'
termination_by structural _ first => first

/-- Sort keys from like tokens, one for one. -/
def OrderKey.LikeAll : Likeness → List OrderKey → List OrderKey → Prop
  | _, [], [] => True
  | L, key :: rest, key' :: rest' => key.Like L key' ∧ OrderKey.LikeAll L rest rest'
  | _, _, _ => False
termination_by structural _ first => first

/-- Modifiers from like tokens. -/
def Modifiers.Like : Likeness → Modifiers → Modifiers → Prop
  | L, ⟨groupBy, having, orderBy, limit, offset⟩, ⟨groupBy', having', orderBy', limit', offset'⟩ =>
    Expression.LikeAll (L.within .grouping) groupBy groupBy' ∧
      Expression.LikeAll (L.within .having) having having' ∧
      OrderKey.LikeAll (L.within .ordering) orderBy orderBy' ∧
      Option.Rel (Slice.Like L) limit limit' ∧ Option.Rel (Slice.Like L) offset offset'
termination_by structural _ first => first

/-- Inner selections from like tokens. -/
def SubSelect.Like : Likeness → SubSelect → SubSelect → Prop
  | L, ⟨selection, group, modifiers, values⟩, ⟨selection', group', modifiers', values'⟩ =>
    selection.Like L selection' ∧ group.Like L group' ∧ modifiers.Like L modifiers' ∧
      Option.Rel L.Stands values values'
termination_by structural _ first => first

end

variable {L : Likeness}

/-- Operations from like tokens; templates stand in a region of their own. -/
inductive Operation.Like (L : Likeness) : Operation → Operation → Prop where
  | manage (management : Management) : Like L (.manage management) (.manage management)
  | insertData {group group' : Group} : group.Like (L.within .template) group' →
      Like L (.insertData group) (.insertData group')
  | deleteData {group group' : Group} : group.Like (L.within .template) group' →
      Like L (.deleteData group) (.deleteData group')
  | deleteWhere {group group' : Group} : group.Like L group' → Like L (.deleteWhere group) (.deleteWhere group')
  | modify {deleted inserted deleted' inserted' : Option Group} {group group' : Group} :
      Option.Rel (Group.Like (L.within .template)) deleted deleted' →
      Option.Rel (Group.Like (L.within .template)) inserted inserted' → group.Like L group' →
      Like L (.modify deleted inserted group) (.modify deleted' inserted' group')

/-- **Bodies from like tokens.** -/
inductive Query.Body.Like (L : Likeness) : Query.Body → Query.Body → Prop where
  | select {selection selection' : Selection} {group group' : Group} {modifiers modifiers' : Modifiers}
      {values values' : Option Values} : selection.Like L selection' → group.Like L group' →
      modifiers.Like L modifiers' → Option.Rel L.Stands values values' →
      Like L (.select selection group modifiers values) (.select selection' group' modifiers' values')
  | ask {group group' : Group} {modifiers modifiers' : Modifiers} {values values' : Option Values} :
      group.Like L group' → modifiers.Like L modifiers' → Option.Rel L.Stands values values' →
      Like L (.ask group modifiers values) (.ask group' modifiers' values')
  | construct {group group' : Group} {modifiers modifiers' : Modifiers} {values values' : Option Values} :
      group.Like L group' → modifiers.Like L modifiers' → Option.Rel L.Stands values values' →
      Like L (.construct group modifiers values) (.construct group' modifiers' values')
  | describe {group group' : Option Group} {modifiers modifiers' : Modifiers} {values values' : Option Values} :
      Option.Rel (Group.Like L) group group' → modifiers.Like L modifiers' →
      Option.Rel L.Stands values values' →
      Like L (.describe group modifiers values) (.describe group' modifiers' values')
  | update {operations operations' : List Operation} :
      List.Forall₂ (Operation.Like L) operations operations' → Like L (.update operations) (.update operations')

/-- **Queries from like tokens.** -/
structure Query.Like (L : Likeness) (query query' : Query) : Prop where
  prologue : query'.prologue = query.prologue
  body : query.body.Like L query'.body

/-! ## One for one -/

theorem Element.likeAll_iff {list list' : List Element} :
    Element.LikeAll L list list' ↔ List.Forall₂ (Element.Like L) list list' := by
  induction list generalizing list' with
  | nil => cases list' <;> simp [Element.LikeAll]
  | cons element rest ih => cases list' <;> simp [Element.LikeAll, ih]

theorem Group.likeAll_iff {list list' : List Group} :
    Group.LikeAll L list list' ↔ List.Forall₂ (Group.Like L) list list' := by
  induction list generalizing list' with
  | nil => cases list' <;> simp [Group.LikeAll]
  | cons group rest ih => cases list' <;> simp [Group.LikeAll, ih]

theorem Expression.likeAll_iff {list list' : List Expression} :
    Expression.LikeAll L list list' ↔ List.Forall₂ (Expression.Like L) list list' := by
  induction list generalizing list' with
  | nil => cases list' <;> simp [Expression.LikeAll]
  | cons expression rest ih => cases list' <;> simp [Expression.LikeAll, ih]

theorem Projection.likeAll_iff {list list' : List Projection} :
    Projection.LikeAll L list list' ↔ List.Forall₂ (Projection.Like L) list list' := by
  induction list generalizing list' with
  | nil => cases list' <;> simp [Projection.LikeAll]
  | cons projection rest ih => cases list' <;> simp [Projection.LikeAll, ih]

theorem OrderKey.likeAll_iff {list list' : List OrderKey} :
    OrderKey.LikeAll L list list' ↔ List.Forall₂ (OrderKey.Like L) list list' := by
  induction list generalizing list' with
  | nil => cases list' <;> simp [OrderKey.LikeAll]
  | cons key rest ih => cases list' <;> simp [OrderKey.LikeAll, ih]

end QuerySignature
