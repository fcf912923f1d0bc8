import QuerySignature.Proofs.Binding.Cells
import QuerySignature.Reading.Path

/-!
# Proofs/Query/Flipped — a minus that is turned into a plus

A plus between a path and a number has two readings: the number takes it as its sign, or the path as the mark of its
last repetition (`PlusRole`).  Two queries that are flipped differ in one place.  Where the plus is a sign, this is a
literal, which has the other sign (`Node.Flipped.literal`).  Where it is a repetition, the verb in front of the number
has a plus more, for every object of that verb, and the number has no sign (`Properties.Flipped.verb`).  An expression
keeps its text, so around an `EXISTS` group the texts differ in the sign too.
-/

namespace QuerySignature

/-- **What a plus in front of a number is.** -/
inductive PlusRole where
  /-- The number takes it. -/
  | sign
  /-- The path in front takes it. -/
  | repetition
  deriving DecidableEq

/-- One item of a list is replaced by a related one. -/
inductive OneOf {α : Type} (r : α → α → Prop) : List α → List α → Prop where
  | here {a a' : α} {others : List α} : r a a' → OneOf r (a :: others) (a' :: others)
  | there {a : α} {list list' : List α} : OneOf r list list' → OneOf r (a :: list) (a :: list')

theorem OneOf.exists_parts {α : Type} {r : α → α → Prop} {list list' : List α} (h : OneOf r list list') :
    ∃ front a a' behind, list = front ++ a :: behind ∧ list' = front ++ a' :: behind ∧ r a a' := by
  induction h with
  | here related => exact ⟨[], _, _, _, rfl, rfl, related⟩
  | there _ ih =>
    obtain ⟨front, a, a', behind, rfl, rfl, related⟩ := ih
    exact ⟨_ :: front, a, a', behind, rfl, rfl, related⟩

/-- Among other items. -/
theorem OneOf.between {α : Type} {r : α → α → Prop} {list list' : List α} (h : OneOf r list list')
    (front behind : List α) : OneOf r (front ++ list ++ behind) (front ++ list' ++ behind) := by
  rw [List.append_assoc, List.append_assoc]
  induction front with
  | nil =>
    induction h with
    | here related => exact .here related
    | there _ ih => exact .there ih
  | cons item front ih => exact .there ih

theorem OneOf.isEmpty {α : Type} {r : α → α → Prop} {list list' : List α} (h : OneOf r list list') :
    list.isEmpty = false ∧ list'.isEmpty = false := by
  cases h <;> exact ⟨rfl, rfl⟩

/-! ## Numbers -/

/-- **The literal with a sign in front.** -/
def Literal.signed (sign : Text) (number : Literal) : Literal :=
  ⟨sign ++ number.lexical, sign.map Char.toNat ++ number.value, number.language, number.datatype⟩

/-- **A sign is put in front of a number** and changes nothing else. -/
theorem Literal.read_signed {token : Token} (numeric : token.isNumeric = true) :
    ∃ number : Literal, ∀ sign, Literal.read sign token.text = .ok (number.signed sign) := by
  -- neither a quotation mark nor the first letter of a truth value is a digit
  have digit {c : Char} {text : Text} (whole : token.text = c :: text) :
      c ≠ '"' ∧ c ≠ '\'' ∧ c.toLower ≠ 't' ∧ c.toLower ≠ 'f' := by
    have head := ((Bool.and_eq_true _ _).mp numeric).2
    rw [whole] at head
    have apart : ("0123456789.".toList.all fun c => c ≠ '"' ∧ c ≠ '\'' ∧ c.toLower ≠ 't' ∧ c.toLower ≠ 'f') = true :=
      rfl
    exact of_decide_eq_true (List.all_eq_true.mp apart c (List.contains_iff_mem.mp head))
  have plain : split? token.text = none := by
    cases whole : token.text with
    | nil => rfl
    | cons c text => exact split?_plain (digit whole).1 (digit whole).2.1 text
  have other : ¬(token.text.map Char.toLower = "true".toList ∨ token.text.map Char.toLower = "false".toList) := by
    cases whole : token.text with
    | nil => decide
    | cons c text =>
      obtain ⟨-, -, notTrue, notFalse⟩ := digit whole
      rw [List.map_cons]
      exact fun word => word.elim (fun same => notTrue (List.cons.inj same).1) fun same => notFalse (List.cons.inj same).1
  refine ⟨unquoted [] token.text, fun sign => ?_⟩
  rw [read, plain]
  refine congrArg Except.ok ?_
  unfold unquoted
  rw [if_neg other, if_neg other]
  exact congrArg (Literal.mk (sign ++ token.text) · none _) List.map_append

/-! ## Triples -/

/-- **A verb with a plus more**: what it was is kept as its text. -/
inductive Verb.Repeated : Verb → Verb → Prop where
  | one (token : Token) : Repeated (.resource (Reader.propertyOf token)) (.path (token.text ++ ['+']))
  | path (text : Text) : Repeated (.path text) (.path (text ++ ['+']))

mutual

/-- **Nodes in which one minus is turned into a plus.** -/
inductive Node.Flipped : PlusRole → Node → Node → Prop where
  | literal (number : Literal) :
      Node.Flipped .sign (.literal (number.signed ['-'])) (.literal (number.signed ['+']))
  | properties {role : PlusRole} {list list' : List (Verb × Node)} : Properties.Flipped role list list' →
      Node.Flipped role (.properties list) (.properties list')
  | collection {role : PlusRole} (front behind : List Node) {item item' : Node} : Node.Flipped role item item' →
      Node.Flipped role (.collection (front ++ item :: behind)) (.collection (front ++ item' :: behind))

/-- **Property lists in which one minus is turned into a plus**: in an object, or behind a verb that takes the plus
for all its objects. -/
inductive Properties.Flipped : PlusRole → List (Verb × Node) → List (Verb × Node) → Prop where
  | object {role : PlusRole} (front behind : List (Verb × Node)) (verb : Verb) {node node' : Node} :
      Node.Flipped role node node' →
      Properties.Flipped role (front ++ (verb, node) :: behind) (front ++ (verb, node') :: behind)
  | verb (front behind : List (Verb × Node)) {verb verb' : Verb} (number : Literal) (others : List Node) :
      verb.Repeated verb' →
      Properties.Flipped .repetition
        (front ++ (Node.literal (number.signed ['-']) :: others).map (verb, ·) ++ behind)
        (front ++ (Node.literal number :: others).map (verb', ·) ++ behind)

end

theorem Properties.Flipped.of_objects {role : PlusRole} (verb : Verb) {list list' : List Node}
    (h : OneOf (Node.Flipped role) list list') :
    Properties.Flipped role (list.map (verb, ·)) (list'.map (verb, ·)) := by
  obtain ⟨front, node, node', behind, rfl, rfl, flipped⟩ := h.exists_parts
  rw [List.map_append, List.map_append]
  exact .object _ _ verb flipped

/-- Between other verbs and objects. -/
theorem Properties.Flipped.between {role : PlusRole} {list list' : List (Verb × Node)}
    (h : Properties.Flipped role list list') (front behind : List (Verb × Node)) :
    Properties.Flipped role (front ++ list ++ behind) (front ++ list' ++ behind) := by
  cases h with
  | object first second verb flipped =>
    simpa using Properties.Flipped.object (front ++ first) (second ++ behind) verb flipped
  | verb first second number others repeated =>
    simpa using Properties.Flipped.verb (front ++ first) (second ++ behind) number others repeated

theorem Properties.Flipped.of_lists {role : PlusRole} {lists lists' : List (List (Verb × Node))}
    (h : OneOf (Properties.Flipped role) lists lists') : Properties.Flipped role lists.flatten lists'.flatten := by
  obtain ⟨front, list, list', behind, rfl, rfl, flipped⟩ := h.exists_parts
  simpa using flipped.between front.flatten behind.flatten

/-- Triples of one subject in which one minus is turned into a plus. -/
inductive Triples.Flipped (role : PlusRole) : List Triple → List Triple → Prop where
  | subject {node node' : Node} (properties : List (Verb × Node)) : node.Flipped role node' →
      Triples.Flipped role (Triple.ofSubject node properties) (Triple.ofSubject node' properties)
  | properties (node : Node) {list list' : List (Verb × Node)} : Properties.Flipped role list list' →
      Triples.Flipped role (Triple.ofSubject node list) (Triple.ofSubject node list')

/-! ## Groups -/

mutual

/-- **Expressions in which one minus is turned into a plus**: in the text, and in a group inside. -/
inductive Expression.Flipped : PlusRole → Expression → Expression → Prop where
  | mk {role : PlusRole} (front behind : Text) (vars : List Text) {patterns patterns' : List Group} :
      OneOf (Group.Flipped role) patterns patterns' →
      Expression.Flipped role ⟨front ++ '-' :: behind, vars, patterns⟩ ⟨front ++ '+' :: behind, vars, patterns'⟩

/-- **Groups in which one minus is turned into a plus.** -/
inductive Group.Flipped : PlusRole → Group → Group → Prop where
  | triples {role : PlusRole} (front behind : List Element) {list list' : List Triple} :
      Triples.Flipped role list list' →
      Group.Flipped role (.pattern (front ++ list.map .triple ++ behind))
        (.pattern (front ++ list'.map .triple ++ behind))
  | element {role : PlusRole} {elements elements' : List Element} : OneOf (Element.Flipped role) elements elements' →
      Group.Flipped role (.pattern elements) (.pattern elements')
  | selection {role : PlusRole} {inner inner' : SubSelect} : SubSelect.Flipped role inner inner' →
      Group.Flipped role (.selection inner) (.selection inner')

/-- Elements in which one minus is turned into a plus. -/
inductive Element.Flipped : PlusRole → Element → Element → Prop where
  | filter {role : PlusRole} {expression expression' : Expression} : Expression.Flipped role expression expression' →
      Element.Flipped role (.filter expression) (.filter expression')
  | bind {role : PlusRole} {expression expression' : Expression} (name : Text) :
      Expression.Flipped role expression expression' →
      Element.Flipped role (.bind expression name) (.bind expression' name)
  | optional {role : PlusRole} {group group' : Group} : Group.Flipped role group group' →
      Element.Flipped role (.optional group) (.optional group')
  | nested {role : PlusRole} {group group' : Group} : Group.Flipped role group group' →
      Element.Flipped role (.nested group) (.nested group')
  | union {role : PlusRole} {first second first' second' : Group} {others others' : List Group} :
      OneOf (Group.Flipped role) (first :: second :: others) (first' :: second' :: others') →
      Element.Flipped role (.union first second others) (.union first' second' others')
  | minus {role : PlusRole} {group group' : Group} : Group.Flipped role group group' →
      Element.Flipped role (.minus group) (.minus group')
  | graph {role : PlusRole} (name : Target) {group group' : Group} : Group.Flipped role group group' →
      Element.Flipped role (.graph name group) (.graph name group')
  | service {role : PlusRole} (silent : Bool) (endpoint : Target) {group group' : Group} :
      Group.Flipped role group group' →
      Element.Flipped role (.service silent endpoint group) (.service silent endpoint group')

/-- Columns in which one minus is turned into a plus. -/
inductive Projection.Flipped : PlusRole → Projection → Projection → Prop where
  | aliased {role : PlusRole} {expression expression' : Expression} (name : Text) :
      Expression.Flipped role expression expression' →
      Projection.Flipped role (.aliased expression name) (.aliased expression' name)

/-- Selections in which one minus is turned into a plus. -/
inductive Selection.Flipped : PlusRole → Selection → Selection → Prop where
  | listed {role : PlusRole} (duplicates : Duplicates) {list list' : List Projection} :
      OneOf (Projection.Flipped role) list list' →
      Selection.Flipped role ⟨.listed list, duplicates⟩ ⟨.listed list', duplicates⟩

/-- Sort keys in which one minus is turned into a plus. -/
inductive OrderKey.Flipped : PlusRole → OrderKey → OrderKey → Prop where
  | mk {role : PlusRole} (descending : Bool) {expression expression' : Expression} :
      Expression.Flipped role expression expression' →
      OrderKey.Flipped role ⟨expression, descending⟩ ⟨expression', descending⟩

/-- Modifiers in which one minus is turned into a plus. -/
inductive Modifiers.Flipped : PlusRole → Modifiers → Modifiers → Prop where
  | groupBy {role : PlusRole} {groupBy groupBy' : List Expression} (having : List Expression)
      (orderBy : List OrderKey) (limit offset : Option Slice) : OneOf (Expression.Flipped role) groupBy groupBy' →
      Modifiers.Flipped role ⟨groupBy, having, orderBy, limit, offset⟩ ⟨groupBy', having, orderBy, limit, offset⟩
  | having {role : PlusRole} (groupBy : List Expression) {having having' : List Expression}
      (orderBy : List OrderKey) (limit offset : Option Slice) : OneOf (Expression.Flipped role) having having' →
      Modifiers.Flipped role ⟨groupBy, having, orderBy, limit, offset⟩ ⟨groupBy, having', orderBy, limit, offset⟩
  | orderBy {role : PlusRole} (groupBy having : List Expression) {orderBy orderBy' : List OrderKey}
      (limit offset : Option Slice) : OneOf (OrderKey.Flipped role) orderBy orderBy' →
      Modifiers.Flipped role ⟨groupBy, having, orderBy, limit, offset⟩ ⟨groupBy, having, orderBy', limit, offset⟩

/-- Inner selections in which one minus is turned into a plus. -/
inductive SubSelect.Flipped : PlusRole → SubSelect → SubSelect → Prop where
  | selection {role : PlusRole} {selection selection' : Selection} (group : Group) (modifiers : Modifiers)
      (values : Option Values) : Selection.Flipped role selection selection' →
      SubSelect.Flipped role ⟨selection, group, modifiers, values⟩ ⟨selection', group, modifiers, values⟩
  | group {role : PlusRole} (selection : Selection) {group group' : Group} (modifiers : Modifiers)
      (values : Option Values) : Group.Flipped role group group' →
      SubSelect.Flipped role ⟨selection, group, modifiers, values⟩ ⟨selection, group', modifiers, values⟩
  | modifiers {role : PlusRole} (selection : Selection) (group : Group) {modifiers modifiers' : Modifiers}
      (values : Option Values) : Modifiers.Flipped role modifiers modifiers' →
      SubSelect.Flipped role ⟨selection, group, modifiers, values⟩ ⟨selection, group, modifiers', values⟩

end

/-! ### Verbs -/

/-- The verb of a triple. -/
def Element.verb? : Element → Option Verb
  | .triple written => some written.verb
  | _ => none

theorem Triples.Flipped.verbs {list list' : List Triple} (h : Triples.Flipped .sign list list') :
    list.map Triple.verb = list'.map Triple.verb := by
  cases h with
  | subject properties => simp [Triple.ofSubject]
  | properties node flipped =>
    cases flipped with
    | object front behind verb => simp [Triple.ofSubject]

/-- **Where the plus is a sign, the triples of a group keep their verbs.** -/
theorem Group.Flipped.verbs {elements elements' : List Element}
    (h : Group.Flipped .sign (.pattern elements) (.pattern elements')) :
    elements.map Element.verb? = elements'.map Element.verb? := by
  cases h with
  | triples front behind flipped =>
    have same := congrArg (List.map some) flipped.verbs
    rw [List.map_map, List.map_map] at same
    simp only [List.map_append, List.map_map]
    exact congrArg (_ ++ · ++ _) same
  | element flipped =>
    obtain ⟨front, element, element', behind, rfl, rfl, related⟩ := flipped.exists_parts
    have none_ : element.verb? = element'.verb? := by cases related <;> rfl
    rw [List.map_append, List.map_append, List.map_cons, List.map_cons, none_]

/-! ## Queries -/

/-- Operations in which one minus is turned into a plus. -/
inductive Operation.Flipped (role : PlusRole) : Operation → Operation → Prop where
  | insertData {template template' : Group} : template.Flipped role template' →
      Operation.Flipped role (.insertData template) (.insertData template')
  | deleteData {template template' : Group} : template.Flipped role template' →
      Operation.Flipped role (.deleteData template) (.deleteData template')
  | deleteWhere {group group' : Group} : group.Flipped role group' →
      Operation.Flipped role (.deleteWhere group) (.deleteWhere group')
  | deleted {deleted deleted' : Group} (inserted : Option Group) (group : Group) : deleted.Flipped role deleted' →
      Operation.Flipped role (.modify (some deleted) inserted group) (.modify (some deleted') inserted group)
  | inserted (deleted : Option Group) {inserted inserted' : Group} (group : Group) :
      inserted.Flipped role inserted' →
      Operation.Flipped role (.modify deleted (some inserted) group) (.modify deleted (some inserted') group)
  | group (deleted inserted : Option Group) {group group' : Group} : group.Flipped role group' →
      Operation.Flipped role (.modify deleted inserted group) (.modify deleted inserted group')

/-- **Bodies in which one minus is turned into a plus.**  The template of a construction is not kept, so there the
bodies are the same. -/
inductive Query.Body.Flipped (role : PlusRole) : Query.Body → Query.Body → Prop where
  | selection {selection selection' : Selection} (group : Group) (modifiers : Modifiers) (values : Option Values) :
      selection.Flipped role selection' →
      Query.Body.Flipped role (.select selection group modifiers values) (.select selection' group modifiers values)
  | selectGroup (selection : Selection) {group group' : Group} (modifiers : Modifiers) (values : Option Values) :
      group.Flipped role group' →
      Query.Body.Flipped role (.select selection group modifiers values) (.select selection group' modifiers values)
  | selectModifiers (selection : Selection) (group : Group) {modifiers modifiers' : Modifiers}
      (values : Option Values) : modifiers.Flipped role modifiers' →
      Query.Body.Flipped role (.select selection group modifiers values) (.select selection group modifiers' values)
  | askGroup {group group' : Group} (modifiers : Modifiers) (values : Option Values) : group.Flipped role group' →
      Query.Body.Flipped role (.ask group modifiers values) (.ask group' modifiers values)
  | askModifiers (group : Group) {modifiers modifiers' : Modifiers} (values : Option Values) :
      modifiers.Flipped role modifiers' →
      Query.Body.Flipped role (.ask group modifiers values) (.ask group modifiers' values)
  | template (group : Group) (modifiers : Modifiers) (values : Option Values) :
      Query.Body.Flipped role (.construct group modifiers values) (.construct group modifiers values)
  | constructGroup {group group' : Group} (modifiers : Modifiers) (values : Option Values) :
      group.Flipped role group' →
      Query.Body.Flipped role (.construct group modifiers values) (.construct group' modifiers values)
  | constructModifiers (group : Group) {modifiers modifiers' : Modifiers} (values : Option Values) :
      modifiers.Flipped role modifiers' →
      Query.Body.Flipped role (.construct group modifiers values) (.construct group modifiers' values)
  | describeGroup {group group' : Group} (modifiers : Modifiers) (values : Option Values) :
      group.Flipped role group' →
      Query.Body.Flipped role (.describe (some group) modifiers values) (.describe (some group') modifiers values)
  | describeModifiers (group : Option Group) {modifiers modifiers' : Modifiers} (values : Option Values) :
      modifiers.Flipped role modifiers' →
      Query.Body.Flipped role (.describe group modifiers values) (.describe group modifiers' values)
  | update {operations operations' : List Operation} : OneOf (Operation.Flipped role) operations operations' →
      Query.Body.Flipped role (.update operations) (.update operations')

/-- **Queries in which one minus is turned into a plus.** -/
inductive Query.Flipped (role : PlusRole) : Query → Query → Prop where
  | mk (prologue : Prologue) {body body' : Query.Body} : body.Flipped role body' →
      Query.Flipped role ⟨prologue, body⟩ ⟨prologue, body'⟩

end QuerySignature
