import QuerySignature.Proofs.Query.Like

/-!
# Proofs/Query/Exact — alike and the same

A likeness is exact if it takes nothing for anything but itself.  Queries and faults that are alike under it are
the same.
-/

namespace QuerySignature

/-! ## Texts that are kept -/

/-- **Texts are kept**: a token is taken for one with its text, and a block for one whose tokens have the texts of its
own. -/
structure Likeness.Verbatim (L : Likeness) : Prop where
  token : ∀ {t t' : Token}, L.like t t' → t'.text = t.text
  block : ∀ {region : Option Region} {b b' : Values} {tokens tokens' : List Token},
    L.block region b tokens b' tokens' → tokens'.map Token.text = tokens.map Token.text

namespace Likeness.Verbatim

variable {L : Likeness}

/-- Tokens that respell a run verbatim have the texts of its tokens. -/
theorem respells (verbatim : L.Verbatim) {steps : List Step} {out : List Token} (h : Respells L steps out) :
    out.map Token.text = (steps.flatMap Step.tokens).map Token.text := by
  induction h with
  | nil => rfl
  | token like _ ih => exact congrArg₂ List.cons (verbatim.token like) ih
  | block stands _ ih =>
    rw [List.map_append, List.flatMap_cons, List.map_append, verbatim.block stands, ih]
    rfl

/-- The text of an expression is the same where tokens are kept verbatim. -/
theorem text (verbatim : L.Verbatim) {text text' : Text} (h : TextLike L text text') : text' = text := by
  induction h with
  | spaced respelled =>
    obtain ⟨steps, rfl, respells⟩ := respelled
    exact congrArg (Text.joined " ".toList) (verbatim.respells respells)
  | call name _ ih => rw [verbatim.token name, ih]
  | named var _ ih => rw [verbatim.token var, ih]

theorem slice (verbatim : L.Verbatim) {slice slice' : Slice} (h : slice.Like L slice') : slice' = slice := by
  obtain ⟨t, t', like, keyword, keyword'⟩ := h.keyword
  have same : slice'.keyword = slice.keyword := by rw [keyword, keyword', verbatim.token like]
  cases slice
  cases slice'
  cases h.lexical
  cases h.value
  cases same
  rfl

end Likeness.Verbatim

/-! ## Likenesses that are exact -/

/-- **Nothing is taken for anything but itself.** -/
structure Likeness.Exact (L : Likeness) : Prop where
  token : ∀ {t t' : Token}, L.ahead t t' → t' = t
  block : ∀ {region : Option Region} {b b' : Values} {tokens tokens' : List Token},
    L.block region b tokens b' tokens' → b' = b ∧ tokens' = tokens

namespace Likeness.Exact

variable {L : Likeness}

/-- An exact likeness is so in every region. -/
theorem within (exact : L.Exact) (region : Region) : (L.within region).Exact := ⟨exact.token, exact.block⟩

/-- An exact likeness keeps the texts of tokens. -/
theorem verbatim (exact : L.Exact) : L.Verbatim where
  token like := by rw [exact.token (L.ahead_of_like like)]
  block stands := by rw [(exact.block stands).2]

/-- Blocks that stand for each other under an exact likeness are equal. -/
theorem stands (exact : L.Exact) {b b' : Values} (h : L.Stands b b') : b' = b := by
  obtain ⟨_, _, stands⟩ := h
  exact (exact.block stands).1

/-- Tokens are taken for themselves. -/
theorem respelled (exact : L.Exact) {tokens tokens' : List Token} (h : Respelled L tokens tokens') :
    tokens' = tokens := by
  obtain ⟨steps, rfl, respells⟩ := h
  induction respells with
  | nil => rfl
  | token like _ ih => rw [exact.token (L.ahead_of_like like), ih, List.flatMap_cons, Step.tokens, List.singleton_append]
  | block stands _ ih => rw [(exact.block stands).2, ih, List.flatMap_cons, Step.tokens]

/-- Items that are there or not. -/
theorem option {α : Type} {V : α → α → Prop} (same : ∀ {a a'}, V a a' → a' = a) {found found' : Option α}
    (h : Option.Rel V found found') : found' = found := by
  cases h with
  | none => rfl
  | some related => rw [same related]

end Likeness.Exact

mutual

theorem Group.eq_of_like : ∀ {L : Likeness} (_ : L.Exact) (group group' : Group), group.Like L group' → group' = group
  | _, exact, .pattern elements, .pattern elements', h => by rw [Element.eq_of_likeAll exact elements elements' h]
  | _, exact, .selection inner, .selection inner', h => by rw [SubSelect.eq_of_like exact inner inner' h]
termination_by structural _ _ group => group

theorem Element.eq_of_likeAll : ∀ {L : Likeness} (_ : L.Exact) (list list' : List Element),
    Element.LikeAll L list list' → list' = list
  | _, _, [], [], _ => rfl
  | _, exact, element :: rest, element' :: rest', h => by
    rw [Element.eq_of_like exact element element' h.1, Element.eq_of_likeAll exact rest rest' h.2]
termination_by structural _ _ list => list

theorem Element.eq_of_like : ∀ {L : Likeness} (_ : L.Exact) (element element' : Element),
    element.Like L element' → element' = element
  | _, _, .triple _, .triple _, h => congrArg _ (Eq.symm h)
  | _, exact, .values _, .values _, h => congrArg _ (exact.stands h)
  | _, exact, .filter expression, .filter expression', h => by
    rw [Expression.eq_of_like exact expression expression' h]
  | _, exact, .optional group, .optional group', h => by rw [Group.eq_of_like exact group group' h]
  | _, exact, .nested group, .nested group', h => by rw [Group.eq_of_like exact group group' h]
  | _, exact, .union first second others, .union first' second' others', h => by
    rw [Group.eq_of_like exact first first' h.1, Group.eq_of_like exact second second' h.2.1,
      Group.eq_of_likeAll exact others others' h.2.2]
  | _, exact, .minus group, .minus group', h => by rw [Group.eq_of_like exact group group' h]
  | _, exact, .graph _ group, .graph _ group', h => by rw [h.1, Group.eq_of_like exact group group' h.2]
  | _, exact, .service _ _ group, .service _ _ group', h => by
    rw [h.1, h.2.1, Group.eq_of_like exact group group' h.2.2]
  | _, exact, .bind expression _, .bind expression' _, h => by
    rw [Expression.eq_of_like exact expression expression' h.1, h.2]
termination_by structural _ _ element => element

theorem Group.eq_of_likeAll : ∀ {L : Likeness} (_ : L.Exact) (list list' : List Group),
    Group.LikeAll L list list' → list' = list
  | _, _, [], [], _ => rfl
  | _, exact, group :: rest, group' :: rest', h => by
    rw [Group.eq_of_like exact group group' h.1, Group.eq_of_likeAll exact rest rest' h.2]
termination_by structural _ _ list => list

theorem Expression.eq_of_like : ∀ {L : Likeness} (_ : L.Exact) (expression expression' : Expression),
    expression.Like L expression' → expression' = expression
  | _, exact, ⟨_, _, patterns⟩, ⟨_, _, patterns'⟩, h => by
    rw [exact.verbatim.text h.1, h.2.1, Group.eq_of_likeAll exact patterns patterns' h.2.2]
termination_by structural _ _ expression => expression

theorem Expression.eq_of_likeAll : ∀ {L : Likeness} (_ : L.Exact) (list list' : List Expression),
    Expression.LikeAll L list list' → list' = list
  | _, _, [], [], _ => rfl
  | _, exact, expression :: rest, expression' :: rest', h => by
    rw [Expression.eq_of_like exact expression expression' h.1, Expression.eq_of_likeAll exact rest rest' h.2]
termination_by structural _ _ list => list

theorem Projection.eq_of_like : ∀ {L : Likeness} (_ : L.Exact) (projection projection' : Projection),
    projection.Like L projection' → projection' = projection
  | _, _, .var _, .var _, h => congrArg _ (Eq.symm h)
  | _, exact, .aliased expression _, .aliased expression' _, h => by
    rw [Expression.eq_of_like exact expression expression' h.1, h.2]
termination_by structural _ _ projection => projection

theorem Projection.eq_of_likeAll : ∀ {L : Likeness} (_ : L.Exact) (list list' : List Projection),
    Projection.LikeAll L list list' → list' = list
  | _, _, [], [], _ => rfl
  | _, exact, projection :: rest, projection' :: rest', h => by
    rw [Projection.eq_of_like exact projection projection' h.1, Projection.eq_of_likeAll exact rest rest' h.2]
termination_by structural _ _ list => list

theorem Projections.eq_of_like : ∀ {L : Likeness} (_ : L.Exact) (projections projections' : Projections),
    projections.Like L projections' → projections' = projections
  | _, _, .everything, .everything, _ => rfl
  | _, exact, .listed list, .listed list', h => by
    rw [Projection.eq_of_likeAll (exact.within .projection) list list' h]
termination_by structural _ _ projections => projections

theorem Selection.eq_of_like : ∀ {L : Likeness} (_ : L.Exact) (selection selection' : Selection),
    selection.Like L selection' → selection' = selection
  | _, exact, ⟨projections, _⟩, ⟨projections', _⟩, h => by
    rw [Projections.eq_of_like exact projections projections' h.1, h.2]
termination_by structural _ _ selection => selection

theorem OrderKey.eq_of_like : ∀ {L : Likeness} (_ : L.Exact) (key key' : OrderKey), key.Like L key' → key' = key
  | _, exact, ⟨expression, _⟩, ⟨expression', _⟩, h => by
    rw [Expression.eq_of_like exact expression expression' h.1, h.2]
termination_by structural _ _ key => key

theorem OrderKey.eq_of_likeAll : ∀ {L : Likeness} (_ : L.Exact) (list list' : List OrderKey),
    OrderKey.LikeAll L list list' → list' = list
  | _, _, [], [], _ => rfl
  | _, exact, key :: rest, key' :: rest', h => by
    rw [OrderKey.eq_of_like exact key key' h.1, OrderKey.eq_of_likeAll exact rest rest' h.2]
termination_by structural _ _ list => list

theorem Modifiers.eq_of_like : ∀ {L : Likeness} (_ : L.Exact) (modifiers modifiers' : Modifiers),
    modifiers.Like L modifiers' → modifiers' = modifiers
  | _, exact, ⟨groupBy, having, orderBy, _, _⟩, ⟨groupBy', having', orderBy', _, _⟩, h => by
    rw [Expression.eq_of_likeAll (exact.within .grouping) groupBy groupBy' h.1,
      Expression.eq_of_likeAll (exact.within .having) having having' h.2.1,
      OrderKey.eq_of_likeAll (exact.within .ordering) orderBy orderBy' h.2.2.1,
      Likeness.Exact.option exact.verbatim.slice h.2.2.2.1, Likeness.Exact.option exact.verbatim.slice h.2.2.2.2]
termination_by structural _ _ modifiers => modifiers

theorem SubSelect.eq_of_like : ∀ {L : Likeness} (_ : L.Exact) (inner inner' : SubSelect),
    inner.Like L inner' → inner' = inner
  | _, exact, ⟨selection, group, modifiers, _⟩, ⟨selection', group', modifiers', _⟩, h => by
    rw [Selection.eq_of_like exact selection selection' h.1, Group.eq_of_like exact group group' h.2.1,
      Modifiers.eq_of_like exact modifiers modifiers' h.2.2.1, Likeness.Exact.option exact.stands h.2.2.2]
termination_by structural _ _ inner => inner

end

/-! ## Queries and faults -/

namespace Likeness.Exact

variable {L : Likeness}

/-- Operations that are alike under an exact likeness are equal. -/
theorem operation (exact : L.Exact) {operation operation' : Operation} (h : operation.Like L operation') :
    operation' = operation := by
  have template {group group' : Group} (h : group.Like (L.within .template) group') : group' = group :=
    Group.eq_of_like (exact.within .template) group group' h
  cases h with
  | manage => rfl
  | insertData like => rw [template like]
  | deleteData like => rw [template like]
  | deleteWhere like => rw [Group.eq_of_like exact _ _ like]
  | modify deleted inserted like =>
    rw [option template deleted, option template inserted, Group.eq_of_like exact _ _ like]

/-- **Queries that are alike under an exact likeness are the same.** -/
theorem query (exact : L.Exact) {query query' : Query} (h : query.Like L query') : query' = query := by
  obtain ⟨prologue, body⟩ := query
  obtain ⟨prologue', body'⟩ := query'
  have group {group group' : Group} (h : group.Like L group') : group' = group :=
    Group.eq_of_like exact group group' h
  have modifiers {modifiers modifiers' : Modifiers} (h : modifiers.Like L modifiers') : modifiers' = modifiers :=
    Modifiers.eq_of_like exact modifiers modifiers' h
  obtain ⟨rfl, body⟩ := h
  congr 1
  cases body with
  | select selection like mods values =>
    rw [Selection.eq_of_like exact _ _ selection, group like, modifiers mods, option exact.stands values]
  | ask like mods values => rw [group like, modifiers mods, option exact.stands values]
  | construct like mods values => rw [group like, modifiers mods, option exact.stands values]
  | describe like mods values => rw [option group like, modifiers mods, option exact.stands values]
  | update operations =>
    congr 1
    induction operations with
    | nil => rfl
    | cons first _ ih => rw [exact.operation first, ih]

/-- **Faults that are alike under an exact likeness are the same.** -/
theorem fault (exact : L.Exact) {fault fault' : Fault} (h : fault.Like L fault') : fault' = fault := by
  cases h with
  | unexpected expected found => rw [option exact.token found]
  | tooDeep ahead => rw [exact.token ahead]
  | rowLength width count ahead => rw [exact.token ahead]
  | unreadable term => rfl

end Likeness.Exact

end QuerySignature
