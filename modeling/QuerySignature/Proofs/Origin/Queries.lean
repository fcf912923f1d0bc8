import QuerySignature.Proofs.Origin.Trees
import QuerySignature.Proofs.Outcome.Causal

/-!
# Proofs/Origin/Queries — every node of a query stems from its rule

Each reader that starts at one of the tokens yields parts whose trees are traced, if the readers inside its brackets
do; by induction on the brackets that may still be open, all do (`inside_traced`).  The rules that make paths and
expressions are read from one of the tokens on, so what they read occurs there.  Hence every node of every query, and
of every group that is read anywhere in its tokens, stems from its rule (`parseTokens_traced`, `Occurs.traced`).
-/

namespace QuerySignature

namespace Reader

variable {α : Type} {whole : List Token} {deepest : Nat} {depth : Option Inside}

/-- What can be read inside a bracket is traced. -/
structure InsideTraced (whole : List Token) (deepest : Nat) (inner : Inside) : Prop where
  node : YieldsFrom whole (fun node : Node => node.tree.Traced whole deepest) inner.node
  properties : YieldsFrom whole (PropertiesTraced whole deepest) inner.properties
  brackets : YieldsFrom whole (Scanned.Traced whole deepest) inner.brackets
  content : YieldsFrom whole (fun group : Group => group.tree.Traced whole deepest) inner.content

/-- **No more brackets may be open than the limits allow**, and what can be read inside the next one is traced. -/
structure DepthTraced (whole : List Token) (deepest : Nat) (depth : Option Inside) : Prop where
  level : ∃ brackets ≤ deepest, depth = inside brackets
  inner : Given (InsideTraced whole deepest) depth

/-- What a rule reads occurs in the tokens. -/
theorem DepthTraced.occurs (hd : DepthTraced whole deepest depth) (rule : Option Inside → Reader α) :
    YieldsFrom whole (Occurs whole deepest rule) (rule depth) := by
  obtain ⟨brackets, within, rfl⟩ := hd.level
  exact .occurs within

/-- An item that a rule reads occurs in the tokens, beside what else holds of it. -/
theorem DepthTraced.given (hd : DepthTraced whole deepest depth) {rule : Option Inside → Reader (Option α)}
    {P : α → Prop} (h : YieldsFrom whole (Given P) (rule depth)) :
    YieldsFrom whole (Given fun item => Occurs whole deepest rule (some item) ∧ P item) (rule depth) := by
  intro tokens rest found last read
  cases found with
  | none => exact trivial
  | some item => exact ⟨hd.occurs rule last read, h last read⟩

/-! ## Brackets -/

/-- A bracket opens what is traced inside it. -/
theorem enter_traced (hd : DepthTraced whole deepest depth) (bracket : Token) :
    YieldsFrom whole (InsideTraced whole deepest) (enter depth bracket) := by
  cases depth with
  | none => exact .stop
  | some inner => exact .andThen fun _ => .pure hd.inner

/-- **A bracket that is opened, or not.** -/
theorem YieldsFrom.open? {P : α → Prop} {brackets : List String} {N : Option (Token × Inside) → Reader α}
    (hd : DepthTraced whole deepest depth)
    (some : ∀ {token inner}, InsideTraced whole deepest inner → YieldsFrom whole P (N (some (token, inner))))
    (none : YieldsFrom whole P (N none)) : YieldsFrom whole P (Reader.open? depth brackets >>= N) := by
  refine bind (P := Given fun pair => InsideTraced whole deepest pair.2) ?_ fun {found} given => ?_
  · refine .andThen fun ahead => ?_
    split
    · exact .bind (enter_traced hd _) fun inside => .option (fun _ => .pure inside) (.pure trivial)
    · exact .pure trivial
  · cases found with
    | none => exact none
    | some pair => exact some given

/-- **The tree of a group is traced** if its content is. -/
theorem group_traced (hd : DepthTraced whole deepest depth) :
    YieldsFrom whole (fun group : Group => group.tree.Traced whole deepest) (group depth) :=
  .andThen fun brace => .bind (enter_traced hd brace) fun inside => .bind inside.content fun holds =>
    .andThen fun _ => .pure holds

/-! ## Nodes and triples -/

/-- An atom has no parts. -/
theorem atom_traced (token : Token) : YieldsFrom whole (fun node : Node => node.tree.Traced whole deepest) (atom token) := by
  have resource : YieldsFrom whole (fun node : Node => node.tree.Traced whole deepest) (pure (.resource token.resource)) :=
    .pure token.resource.traced
  unfold atom
  split
  · exact .pure (Tree.everywhere_of_leaf trivial rfl)
  · split
    · exact .pure (Node.traced_blank _)
    · exact resource
  · exact .andThen fun _ => .pure (Tree.everywhere_of_leaf trivial rfl)
  · exact resource

/-- A term has no parts. -/
theorem term_traced : YieldsFrom whole (fun node : Node => node.tree.Traced whole deepest) term :=
  .option atom_traced (.option (fun _ => .pure (Tree.everywhere_of_leaf trivial rfl)) .refuse)

/-- A node in brackets has the parts that are read there. -/
theorem node_traced (hd : DepthTraced whole deepest depth) :
    YieldsFrom whole (fun node : Node => node.tree.Traced whole deepest) (node depth) :=
  .option (fun _ => .pure (Node.traced_blank none))
    (.open? hd
      (fun inside => .bind inside.properties fun list => .andThen fun _ => .pure (Node.traced_properties list))
      (.open? hd
        (fun inside => .bind (.manyWhile inside.node) fun items => .andThen fun _ => .pure (Node.traced_collection items))
        term_traced))

/-- Each object is traced by itself. -/
theorem objects_traced (hd : DepthTraced whole deepest depth) :
    YieldsFrom whole (fun list : List Node => ∀ object ∈ list, object.tree.Traced whole deepest) (objects depth) :=
  .bind (node_traced hd) fun first =>
    .bind (.many (.either (node_traced hd).found (.pure trivial))) fun others =>
      .pure (List.forall_mem_cons.mpr ⟨first, others⟩)

/-- A turn of a property list gives a verb, whose path occurs, and its objects. -/
theorem property_traced (hd : DepthTraced whole deepest depth) :
    YieldsFrom whole (Turn.Given (PropertiesTraced whole deepest)) (property depth) :=
  .bind (hd.occurs verb) fun {verb} read => .bind (objects_traced hd) fun {list} objects => by
    have pairs : PropertiesTraced whole deepest (list.map fun object => (verb, object)) :=
      List.forall_mem_map.mpr fun object member => ⟨Verb.traced read, objects object member⟩
    exact .either (.andThen fun _ => .either (.pure pairs) (.pure pairs)) (.pure pairs)

/-- The properties of a list are those of its turns. -/
theorem properties_traced (hd : DepthTraced whole deepest depth) :
    YieldsFrom whole (PropertiesTraced whole deepest) (properties depth) :=
  .bind (.loop (property_traced hd)) fun lists => .pure (List.forall_mem_flatten.mpr lists)

/-- Each triple has a part of the subject and of the list behind it. -/
theorem triples_traced (hd : DepthTraced whole deepest depth) :
    YieldsFrom whole (fun list : List Triple => ∀ triple ∈ list, triple.tree.Traced whole deepest) (triples depth) := by
  refine .andThen fun bracket => .andThen fun closed => .bind (node_traced hd) fun {subject} holds =>
    .andThen fun verb => ?_
  have others : YieldsFrom whole (fun list : List Triple => ∀ triple ∈ list, triple.tree.Traced whole deepest)
      (do return Triple.ofSubject subject (← properties depth)) :=
    .bind (properties_traced hd) fun list => .pure (Triple.traced_ofSubject holds list)
  split
  · exact .pure (Triple.traced_ofSubject (Node.traced_blank none) (Node.propertiesTraced holds))
  · exact others

/-! ## Expressions -/

/-- A test has its group as a part. -/
theorem existsTest_traced (hd : DepthTraced whole deepest depth) :
    YieldsFrom whole (Scanned.Traced whole deepest) (existsTest depth) :=
  .bind (.taking (P := fun group : Group => group.tree.Traced whole deepest)
      (.andThen fun _ => .andThen fun _ => group_traced hd)) fun holds =>
    .pure (List.forall_mem_singleton.mpr holds)

/-- A piece has the groups of its tests as parts. -/
theorem piece_traced (hd : DepthTraced whole deepest depth) :
    YieldsFrom whole (Scanned.Traced whole deepest) (piece depth) :=
  .either (existsTest_traced hd)
    (.open? hd (fun inside => .bind inside.brackets fun inner => .andThen fun _ => .pure inner)
      (.andThen fun _ => .pure fun _ none_ => nomatch none_))

/-- The pieces in brackets are traced together. -/
theorem brackets_traced (hd : DepthTraced whole deepest depth) :
    YieldsFrom whole (Scanned.Traced whole deepest) (brackets depth) :=
  .bind (.manyUntil (piece_traced hd)) fun pieces => .pure (Scanned.traced_concat pieces)

/-- **An expression occurs in the tokens**, and its tests are traced. -/
theorem expression_traced (hd : DepthTraced whole deepest depth) (named : Bool) :
    YieldsFrom whole (fun expression : Expression => expression.tree.Traced whole deepest) (expression depth named) :=
  .bind (.many (.either (.pure trivial) (.either .refuse (piece_traced hd).found))) fun pieces =>
    .pure (Scanned.traced_expression (Scanned.traced_concat pieces))

/-- An expression that must not be empty occurs as such. -/
theorem someExpression_traced (hd : DepthTraced whole deepest depth) (named : Bool) :
    YieldsFrom whole (fun expression : Expression => expression.tree.Traced whole deepest) (someExpression depth named) :=
  .bind (expression_traced hd named) fun holds => by
    split
    · exact .refuse
    · exact .pure holds

/-- A call occurs as a call, with its arguments as an expression. -/
theorem functionCall_traced (hd : DepthTraced whole deepest depth) :
    YieldsFrom whole (fun expression : Expression => expression.tree.Traced whole deepest) (functionCall depth) :=
  .andThen fun _ => .andThen fun _ => .bind (expression_traced hd false) fun holds => .andThen fun _ =>
    .pure (Expression.traced_like holds rfl)

/-- A constraint stems from the rule of its own form. -/
theorem constraint_traced (hd : DepthTraced whole deepest depth) :
    YieldsFrom whole (fun expression : Expression => expression.tree.Traced whole deepest) (constraint depth) :=
  .either (.bind (someExpression_traced hd false) fun holds => .andThen fun _ => .pure holds)
    (.either (.bind (existsTest_traced hd) fun holds => .pure (Scanned.traced_expression holds))
      (.either (functionCall_traced hd) .refuse))

/-- The name of an expression adds no part. -/
theorem namedExpression_traced (hd : DepthTraced whole deepest depth) :
    YieldsFrom whole (fun pair : Expression × Text => pair.1.tree.Traced whole deepest) (namedExpression depth) :=
  .bind (someExpression_traced hd true) fun holds => .andThen fun _ => .andThen fun _ => .andThen fun _ => .pure holds

/-! ## Selections and modifiers -/

/-- A variable is a leaf, and a projection in brackets is its expression. -/
theorem projection?_traced (hd : DepthTraced whole deepest depth) :
    YieldsFrom whole (Given fun projection : Projection => projection.tree.Traced whole deepest) (projection? depth) := by
  have below : YieldsFrom whole
      (Given fun projection : Projection => ∀ child ∈ projection.tree.children, child.Traced whole deepest)
      (projection? depth) :=
    .option (fun _ => .pure (List.forall_mem_nil _))
      (.either (.bind (namedExpression_traced hd) fun holds => .pure (List.forall_mem_singleton.mpr holds))
        (.pure trivial))
  refine (hd.given below).mono fun {found} given => ?_
  cases found with
  | none => exact trivial
  | some projection => exact Tree.everywhere_iff.mpr ⟨Projection.arises given.1, given.2⟩

/-- The parts of a selection are its projections. -/
theorem selection_traced (hd : DepthTraced whole deepest depth) :
    YieldsFrom whole (fun selection : Selection => selection.tree.Traced whole deepest) (selection depth) :=
  .andThen fun _ => .andThen fun duplicates => .either (.pure (Selection.traced_everything duplicates))
    (.bind (.many (.within (projection?_traced hd))) fun {list} holds => by
      split
      · exact .refuse
      · exact .pure (Selection.traced_listed duplicates holds))

/-- A condition stems from a variable, from brackets or from a call. -/
theorem groupCondition?_traced (hd : DepthTraced whole deepest depth) :
    YieldsFrom whole (Given fun condition : Expression => condition.tree.Traced whole deepest) (groupCondition? depth) :=
  .option (fun _ => .pure (Expression.traced_iff.mpr (List.forall_mem_nil _)))
    (.either
      (.bind (expression_traced hd true) fun inner => .either
        (.andThen fun _ => .andThen fun _ => .pure (Expression.traced_like inner rfl))
        (.andThen fun _ => .pure inner))
      (.either (functionCall_traced hd).found (.pure trivial)))

/-- A key is traced by its expression. -/
theorem orderKey?_traced (hd : DepthTraced whole deepest depth) :
    YieldsFrom whole (Given fun key : OrderKey => key.expression.tree.Traced whole deepest) (orderKey? depth) :=
  .option
    (fun _ => .andThen fun _ => .bind (expression_traced hd false) fun holds => .andThen fun _ => .pure holds)
    (.option (fun _ => .pure (Expression.traced_iff.mpr (List.forall_mem_nil _)))
      (.either (.bind (constraint_traced hd) fun holds => .pure holds) (.pure trivial)))

/-- Each item of a clause is traced by itself. -/
theorem clause_traced {P : α → Prop} {keyword : Reader Bool} {missing : Expected} {item : Reader (Option α)}
    (h : YieldsFrom whole (Given P) item) :
    YieldsFrom whole (fun list => ∀ item ∈ list, P item) (clause keyword missing item) :=
  .either
    (.bind (.many h) fun all => by
      split
      · exact .refuse
      · exact .pure all)
    (.pure (List.forall_mem_nil _))

/-- The parts of the modifiers are those of their clauses. -/
theorem modifiers_traced (hd : DepthTraced whole deepest depth) :
    YieldsFrom whole (fun modifiers : Modifiers => modifiers.tree.Traced whole deepest) (modifiers depth) :=
  .bind (clause_traced (.within (hd.given (groupCondition?_traced hd)))) fun grouping =>
    .bind (clause_traced (.within (.either ((hd.occurs constraint).and (constraint_traced hd)).found (.pure trivial))))
      fun constraints =>
        .bind (clause_traced (.within (hd.given (orderKey?_traced hd)))) fun keys =>
          .andThen fun _ => .pure (Modifiers.traced grouping constraints keys)

/-! ## Groups -/

/-- The keyword in front of a group adds no part. -/
theorem whereGroup_traced (hd : DepthTraced whole deepest depth) :
    YieldsFrom whole (fun group : Group => group.tree.Traced whole deepest) (whereGroup depth) :=
  .andThen fun _ => group_traced hd

/-- A sub-select has the parts of its clauses and of its group. -/
theorem subSelect_traced (hd : DepthTraced whole deepest depth) :
    YieldsFrom whole (fun inner : SubSelect => inner.tree.Traced whole deepest) (subSelect depth) :=
  .bind (selection_traced hd) fun columns => .bind (whereGroup_traced hd) fun pattern =>
    .bind (modifiers_traced hd) fun behind => .andThen fun values => .pure (SubSelect.traced values columns pattern behind)

/-- Groups with `UNION` between them are traced below their element. -/
theorem alternatives_tracedBelow (hd : DepthTraced whole deepest depth) :
    YieldsFrom whole (Element.TracedBelow whole deepest) (alternatives depth) :=
  .bind (group_traced hd) fun first =>
    .bind (.many (.either (group_traced hd).found (.pure trivial))) fun {others} all => by
      cases others with
      | nil => exact .pure (List.forall_mem_singleton.mpr first)
      | cons second others =>
        obtain ⟨second, others⟩ := List.forall_mem_cons.mp all
        exact .pure (Element.tracedBelow_union first second others)

/-- **The parts of a pattern are traced**, keyword by keyword. -/
theorem pattern_tracedBelow (hd : DepthTraced whole deepest depth) :
    YieldsFrom whole (Element.TracedBelow whole deepest) (pattern depth) := by
  refine .either (alternatives_tracedBelow hd)
    (.either ?_ (.either ?_ (.either ?_ (.either ?_ (.either ?_ (.either ?_ ?_))))))
  · exact .bind (group_traced hd) fun holds => .pure (List.forall_mem_singleton.mpr holds)
  · exact .bind (group_traced hd) fun holds => .pure (List.forall_mem_singleton.mpr holds)
  · exact .andThen fun name => .bind (group_traced hd) fun holds =>
      .pure (List.forall_mem_cons.mpr ⟨name.traced, List.forall_mem_singleton.mpr holds⟩)
  · exact .andThen fun _ => .andThen fun endpoint => .bind (group_traced hd) fun holds =>
      .pure (List.forall_mem_cons.mpr ⟨endpoint.traced, List.forall_mem_singleton.mpr holds⟩)
  · exact .bind (constraint_traced hd) fun holds => .pure (List.forall_mem_singleton.mpr holds)
  · exact .andThen fun _ => .bind (namedExpression_traced hd) fun holds =>
      .pure (List.forall_mem_singleton.mpr holds)
  · exact .andThen fun block => .pure (Tree.everywhere_iff.mp block.traced).2

/-- A pattern is traced if its parts are, and it occurs itself. -/
theorem pattern_traced (hd : DepthTraced whole deepest depth) :
    YieldsFrom whole (fun element : Element => element.tree.Traced whole deepest) (pattern depth) :=
  ((hd.occurs pattern).and (pattern_tracedBelow hd)).mono fun both =>
    Tree.everywhere_iff.mpr ⟨Element.arises both.1, both.2⟩

/-- A turn of a group gives a pattern or some triples. -/
theorem elements_traced (hd : DepthTraced whole deepest depth) :
    YieldsFrom whole (Turn.Given fun list : List Element => ∀ element ∈ list, element.tree.Traced whole deepest)
      (elements depth) := by
  refine .either (.pure trivial) (.either ?_ (.either ?_ (.andThen fun _ => .refuse)))
  · exact .bind (pattern_traced hd) fun holds => .andThen fun _ => .pure (List.forall_mem_singleton.mpr holds)
  · refine .bind (triples_traced hd) fun {list} holds => ?_
    have triples : ∀ element ∈ list.map Element.triple, element.tree.Traced whole deepest := List.forall_mem_map.mpr holds
    exact .either (.pure triples) (.either (.pure triples) (.pure triples))

/-- The parts of a group are its elements, or the sub-select in it. -/
theorem content_traced (hd : DepthTraced whole deepest depth) :
    YieldsFrom whole (fun group : Group => group.tree.Traced whole deepest) (content depth) :=
  .either (.bind (subSelect_traced hd) fun holds => .pure (Group.traced_selection holds))
    (.bind (.loop (elements_traced hd)) fun lists => .pure (Group.traced_pattern (List.forall_mem_flatten.mpr lists)))

/-- **What can be read inside a bracket is traced**, if the limits allow so many brackets within it. -/
theorem inside_traced {brackets : Nat} (within : brackets ≤ deepest) : DepthTraced whole deepest (inside brackets) := by
  induction brackets with
  | zero => exact ⟨⟨0, within, rfl⟩, trivial⟩
  | succ brackets ih =>
    have hd := ih (Nat.le_of_succ_le within)
    exact ⟨⟨brackets + 1, within, rfl⟩,
      node_traced hd, properties_traced hd, brackets_traced hd, content_traced hd⟩

/-! ## Operations -/

/-- A template is a group. -/
theorem template_traced (hd : DepthTraced whole deepest depth) :
    YieldsFrom whole (fun group : Group => group.tree.Traced whole deepest) (template depth) :=
  .within (group_traced hd)

/-- An operation has its templates and its group as parts. -/
theorem modify_traced (hd : DepthTraced whole deepest depth) {deleted inserted : Option Group}
    (removes : Group.GivenTraced whole deepest deleted) (asserts : Group.GivenTraced whole deepest inserted) :
    YieldsFrom whole (fun operation : Operation => operation.tree.Traced whole deepest) (modify depth deleted inserted) :=
  .andThen fun _ => .andThen fun _ => .bind (group_traced hd) fun {group} holds =>
    .pure (Operation.traced (some group) deleted inserted rfl holds removes asserts)

/-- The templates are read in front of the group. -/
theorem deleteInsert_traced (hd : DepthTraced whole deepest depth) :
    YieldsFrom whole (fun operation : Operation => operation.tree.Traced whole deepest) (deleteInsert depth) :=
  .bind (template_traced hd) fun removes => .either
    (.bind (P := Group.GivenTraced whole deepest) (template_traced hd).found fun asserts => modify_traced hd removes asserts)
    (modify_traced hd removes trivial)

/-- An operation on whole graphs has no parts. -/
theorem manage_traced (management : Management) :
    YieldsFrom whole (fun operation : Operation => operation.tree.Traced whole deepest) (manage management) := by
  have done : YieldsFrom whole (fun operation : Operation => operation.tree.Traced whole deepest)
      (pure (.manage management)) := .pure (Operation.traced none none none rfl trivial trivial trivial)
  refine .andThen fun _ => ?_
  cases management with
  | load => exact .andThen fun _ => .either (.andThen fun _ => .andThen fun _ => done) done
  | clear => exact .either (.andThen fun _ => done) (.andThen fun _ => done)
  | drop => exact .either (.andThen fun _ => done) (.andThen fun _ => done)
  | create => exact .andThen fun _ => .andThen fun _ => done
  | add => exact .andThen fun _ => .andThen fun _ => .andThen fun _ => done
  | move => exact .andThen fun _ => .andThen fun _ => .andThen fun _ => done
  | copy => exact .andThen fun _ => .andThen fun _ => .andThen fun _ => done

/-- **An operation is traced**, whichever it is. -/
theorem operation_traced (hd : DepthTraced whole deepest depth) :
    YieldsFrom whole (fun operation : Operation => operation.tree.Traced whole deepest) (operation depth) := by
  have inserts : YieldsFrom whole (fun operation : Operation => operation.tree.Traced whole deepest)
      (do
        let inserted ← template depth
        modify depth none (some inserted)) :=
    .bind (template_traced hd) fun asserts => modify_traced hd trivial asserts
  refine .option (fun token => ?_) (.either (.either ?_ inserts)
    (.either (.either ?_ (.either ?_ (deleteInsert_traced hd))) (.either ?_ .refuse)))
  · dsimp only
    cases management? token with
    | none => exact .refuse
    | some management => exact manage_traced management
  · exact .bind (template_traced hd) fun {inserted} holds =>
      .pure (Operation.traced none none (some inserted) rfl trivial trivial holds)
  · exact .bind (template_traced hd) fun {deleted} holds =>
      .pure (Operation.traced none (some deleted) none rfl trivial holds trivial)
  · exact .bind (group_traced hd) fun {group} holds =>
      .pure (Operation.traced (some group) none none rfl holds trivial trivial)
  · exact .andThen fun _ => .either inserts (.andThen fun _ => deleteInsert_traced hd)

/-- A turn gives its operation, and declarations without parts. -/
theorem operationTurn_traced (hd : DepthTraced whole deepest depth) :
    YieldsFrom whole (Turn.Given fun pair : Operation × Prologue => pair.1.tree.Traced whole deepest)
      (operationTurn depth) := by
  refine .bind (operation_traced hd) fun holds => .either ?_ (.pure holds)
  refine .andThen fun _ => .andThen fun _ => ?_
  split
  · exact .pure holds
  · exact .pure holds

/-! ## All forms -/

/-- A query with the body is traced, whatever its prologue. -/
abbrev BodyTraced (whole : List Token) (deepest : Nat) (body : Query.Body) : Prop :=
  ∀ prologue, (Query.mk prologue body).tree.Traced whole deepest

/-- A selection has its clauses and its group. -/
theorem selectBody_traced (hd : DepthTraced whole deepest depth) :
    YieldsFrom whole (BodyTraced whole deepest) (selectBody depth) :=
  .bind (selection_traced hd) fun columns => .andThen fun _ => .bind (whereGroup_traced hd) fun pattern =>
    .bind (modifiers_traced hd) fun behind => .andThen fun _ =>
      .pure fun _ => Query.traced columns pattern behind (List.forall_mem_nil _)

/-- A test has its group and its modifiers. -/
theorem askBody_traced (hd : DepthTraced whole deepest depth) :
    YieldsFrom whole (BodyTraced whole deepest) (askBody depth) :=
  .andThen fun _ => .andThen fun _ => .bind (whereGroup_traced hd) fun pattern =>
    .bind (modifiers_traced hd) fun behind => .andThen fun _ =>
      .pure fun _ => Query.traced trivial pattern behind (List.forall_mem_nil _)

/-- A construction has a template, written or taken from its group. -/
theorem constructBody_traced (hd : DepthTraced whole deepest depth) :
    YieldsFrom whole (BodyTraced whole deepest) (constructBody depth) := by
  have pattern : YieldsFrom whole (fun group : Group => group.tree.Traced whole deepest) (constructGroup depth) :=
    .either (.andThen fun _ => .andThen fun _ => whereGroup_traced hd)
      (.andThen fun _ => .andThen fun _ => group_traced hd)
  exact .andThen fun _ => .bind pattern fun pattern => .bind (modifiers_traced hd) fun behind =>
    .andThen fun _ => .pure fun _ => Query.traced trivial pattern behind (List.forall_mem_nil _)

/-- A description may have a group. -/
theorem describeBody_traced (hd : DepthTraced whole deepest depth) :
    YieldsFrom whole (BodyTraced whole deepest) (describeBody depth) := by
  refine .andThen fun _ => .andThen fun _ => .andThen fun _ => .andThen fun _ => .andThen fun _ => ?_
  have rest {found : Option Group} (pattern : Group.GivenTraced whole deepest found) :
      YieldsFrom whole (BodyTraced whole deepest)
        (do
          let modifiers ← modifiers depth
          return .describe found modifiers (← values?)) :=
    .bind (modifiers_traced hd) fun behind => .andThen fun _ =>
      .pure fun _ => Query.traced trivial pattern behind (List.forall_mem_nil _)
  split
  · exact .bind (P := Group.GivenTraced whole deepest) (group_traced hd).found fun holds => rest holds
  · exact rest (trivial : Group.GivenTraced whole deepest none)

/-- An update has its operations. -/
theorem updateBody_traced (hd : DepthTraced whole deepest depth) :
    YieldsFrom whole (fun list : List (Operation × Prologue) => BodyTraced whole deepest (.update (list.map (·.1))))
      (loop (operationTurn depth)) :=
  (YieldsFrom.loop (operationTurn_traced hd)).mono fun each _ =>
    Query.traced trivial trivial Modifiers.traced_empty (List.forall_mem_map.mpr each)

/-- The body of a query is traced in each form. -/
theorem body_traced (hd : DepthTraced whole deepest depth) :
    YieldsFrom whole (fun pair : Query.Body × Prologue => BodyTraced whole deepest pair.1) (body depth) :=
  .either (.bind (selectBody_traced hd) fun holds => .pure holds)
    (.either (.bind (askBody_traced hd) fun holds => .pure holds)
      (.either (.bind (constructBody_traced hd) fun holds => .pure holds)
        (.either (.bind (describeBody_traced hd) fun holds => .pure holds)
          (.either (.bind (updateBody_traced hd) fun holds => .pure holds) .refuse))))

/-- **Every node of a query that is read stems from its rule.** -/
theorem query_traced (hd : DepthTraced whole deepest depth) :
    YieldsFrom whole (fun query : Query => query.tree.Traced whole deepest) (query depth) :=
  .andThen fun declarations => .bind (body_traced hd) fun {pair} holds => .andThen fun _ => by
    obtain ⟨body, further⟩ := pair
    dsimp only
    split
    · exact .refuse
    · exact .pure (holds _)

/-- **Every node of a group that is read somewhere stems from its rule.** -/
theorem Occurs.traced {found : Group} (h : Occurs whole deepest group found) : found.tree.Traced whole deepest := by
  obtain ⟨within, rfl, read⟩ := h
  exact group_traced (inside_traced within) (List.suffix_append _ _) read

end Reader

/-- **Every node of a query that tokens write stems from its rule.** -/
theorem parseTokens_traced {limits : Limits} {tokens : List Token} {query : Query}
    (h : parseTokens limits tokens = .ok query) :
    query.tree.Traced (Token.beforeEnd tokens).1 limits.maxDepth := by
  have readable := readable_of_parseTokens h
  obtain ⟨words, stop, more, rfl, free, ends⟩ := exists_end readable.exists_eof
  rw [beforeEnd_append free ends]
  have read := (parseTokens_eq_ok free ends readable).mp h
  exact Reader.query_traced (Reader.inside_traced (Nat.le_refl _)) (List.suffix_refl words) read

end QuerySignature
