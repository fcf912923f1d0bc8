import QuerySignature.Proofs.Signature.Blocks
import QuerySignature.Proofs.WellFormed.Rules
import QuerySignature.Proofs.WellFormed.Trees

/-!
# Proofs/WellFormed/Queries — every query that is read is well formed

Each reader yields parts whose trees are well formed, if the readers inside its brackets do; by induction on the
brackets that may still be open, all do (`inside_wellFormed`).  So every node of every query that a text writes is
well formed (`parse_wellFormed`).
-/

namespace QuerySignature

namespace Reader

variable {α : Type} {depth : Option Inside}

/-- What can be read inside a bracket is well formed. -/
structure InsideWellFormed (inner : Inside) : Prop where
  node : Yields Node.WellFormed inner.node
  properties : Yields PropertiesWellFormed inner.properties
  brackets : Yields Scanned.WellFormed inner.brackets
  content : Yields Group.WellFormed inner.content

/-- What can be read inside a bracket, if one may open, is well formed. -/
abbrev DepthWellFormed (depth : Option Inside) : Prop :=
  Given InsideWellFormed depth

/-! ## Brackets -/

/-- A bracket opens what is well formed inside it. -/
theorem enter_wellFormed (hd : DepthWellFormed depth) (bracket : Token) :
    Yields InsideWellFormed (enter depth bracket) := by
  cases depth with
  | none => exact .stop
  | some inner => exact .andThen fun _ => .pure hd

/-- **A bracket that is opened, or not.** -/
theorem Yields.open? {P : α → Prop} {brackets : List String} {N : Option (Token × Inside) → Reader α}
    (hd : DepthWellFormed depth) (some : ∀ {token inner}, InsideWellFormed inner → Yields P (N (some (token, inner))))
    (none : Yields P (N none)) : Yields P (Reader.open? depth brackets >>= N) := by
  refine bind (P := Given fun pair => InsideWellFormed pair.2) ?_ fun {found} given => ?_
  · refine .andThen fun ahead => ?_
    split
    · exact .bind (enter_wellFormed hd _) fun inside => .option (fun _ => .pure inside) (.pure trivial)
    · exact .pure trivial
  · cases found with
    | none => exact none
    | some pair => exact some given

/-- A group is well formed if its content is. -/
theorem group_wellFormed (hd : DepthWellFormed depth) : Yields Group.WellFormed (group depth) :=
  .andThen fun brace => .bind (enter_wellFormed hd brace) fun inside => .bind inside.content fun holds =>
    .andThen fun _ => .pure holds

/-! ## Nodes and triples -/

/-- An atom is well formed: a literal among them has been read. -/
theorem atom_wellFormed (token : Token) : Yields Node.WellFormed (atom token) := by
  have resource : Yields Node.WellFormed (pure (.resource token.resource)) :=
    .pure (Resource.wellFormed_tree token.resource)
  unfold atom
  split
  · exact .pure (Tree.everywhere_of_leaf trivial rfl)
  · split
    · exact .pure (Node.wellFormed_blank _)
    · exact resource
  · exact .andThen fun _ => .pure (Tree.everywhere_of_leaf trivial rfl)
  · exact resource

/-- A term is an atom or a number with its sign. -/
theorem term_wellFormed : Yields Node.WellFormed term :=
  .option atom_wellFormed (.option (fun _ => .pure (Tree.everywhere_of_leaf trivial rfl)) .refuse)

/-- **A node is well formed**: its bracket holds properties, items or nothing. -/
theorem node_wellFormed (hd : DepthWellFormed depth) : Yields Node.WellFormed (node depth) :=
  .option (fun _ => .pure (Node.wellFormed_blank none))
    (.open? hd
      (fun inside => .bind inside.properties fun list => .andThen fun _ => .pure (Node.wellFormed_properties list))
      (.open? hd
        (fun inside => .bind (.manyWhile inside.node) fun items => .andThen fun _ =>
          .pure (Node.wellFormed_collection items))
        term_wellFormed))

/-- There is an object, and each of them is well formed. -/
theorem objects_wellFormed (hd : DepthWellFormed depth) :
    Yields (fun list => list ≠ [] ∧ ∀ object ∈ list, object.WellFormed) (objects depth) :=
  .bind (node_wellFormed hd) fun first =>
    .bind (.many (.either (node_wellFormed hd).found (.pure trivial))) fun others =>
      .pure ⟨List.cons_ne_nil _ _, List.forall_mem_cons.mpr ⟨first, others⟩⟩

/-- The turn brings verbs and objects that make a property list. -/
abbrev BringsProperties (turn : Turn (List (Verb × Node))) : Prop :=
  turn ≠ .stop ∧ turn.Given PropertiesWellFormed

/-- A turn with a verb brings at least one object. -/
theorem property_wellFormed (hd : DepthWellFormed depth) : Yields BringsProperties (property depth) :=
  .andThen fun verb => .bind (objects_wellFormed hd) fun {list} objects => by
    have pairs : PropertiesWellFormed (list.map fun object => (verb, object)) :=
      ⟨fun none_ => objects.1 (List.map_eq_nil_iff.mp none_), List.forall_mem_map.mpr objects.2⟩
    have last : Yields BringsProperties (pure (.last (list.map fun object => (verb, object)))) :=
      .pure ⟨(fun same => nomatch same), pairs⟩
    exact .either (.andThen fun _ => .either (.pure ⟨(fun same => nomatch same), pairs⟩) last) last

/-- **A property list has a verb.** -/
theorem properties_wellFormed (hd : DepthWellFormed depth) : Yields PropertiesWellFormed (properties depth) := by
  have turns := property_wellFormed hd
  have some_ : Yields (· ≠ []) (loop (property depth)) := .loop_ne_nil (turns.mono And.left)
  have each : Yields (fun lists => ∀ list ∈ lists, PropertiesWellFormed list) (loop (property depth)) :=
    .loop (turns.mono And.right)
  have both : Yields (fun lists => lists ≠ [] ∧ ∀ list ∈ lists, PropertiesWellFormed list) (loop (property depth)) :=
    fun _ _ _ read => ⟨some_ read, each read⟩
  refine both.bind fun {lists} holds => .pure ⟨fun none_ => ?_, List.forall_mem_flatten.mpr fun list member =>
    (holds.2 list member).2⟩
  obtain ⟨first, others, rfl⟩ := List.exists_cons_of_ne_nil holds.1
  exact (holds.2 first (.head _)).1 (List.flatten_eq_nil_iff.mp none_ first (.head _))

/-- Triples are well formed: their verbs come from a property list. -/
theorem triples_wellFormed (hd : DepthWellFormed depth) :
    Yields (fun list => ∀ triple ∈ list, triple.WellFormed) (triples depth) := by
  refine .andThen fun bracket => .andThen fun closed => .bind (node_wellFormed hd) fun {subject} holds =>
    .andThen fun verb => ?_
  have others : Yields (fun list => ∀ triple ∈ list, triple.WellFormed)
      (do return Triple.ofSubject subject (← properties depth)) :=
    .bind (properties_wellFormed hd) fun list => .pure (Triple.wellFormed_ofSubject holds list.2)
  split
  · exact .pure (Triple.wellFormed_ofSubject (Node.wellFormed_blank none) (Node.wellFormed_objects holds))
  · exact others

/-! ## Inline data -/

/-- The rows of a block are as long as its header. -/
theorem values_wellFormed : Yields Values.WellFormed values := by
  intro tokens rest block read
  obtain ⟨taken, -, block⟩ := valuesContent_writes read
  exact block.wellFormed

/-- A block behind a query may be missing. -/
theorem values?_wellFormed : Yields (Given Values.WellFormed) values? :=
  .either values_wellFormed.found (.pure trivial)

/-! ## Expressions -/

/-- A test is well formed if its group is. -/
theorem existsTest_wellFormed (hd : DepthWellFormed depth) : Yields Scanned.WellFormed (existsTest depth) :=
  .bind (.taking (P := Group.WellFormed) (.andThen fun _ => .andThen fun _ => group_wellFormed hd)) fun holds =>
    .pure (List.forall_mem_singleton.mpr holds)

/-- A piece is well formed if the groups of its tests are. -/
theorem piece_wellFormed (hd : DepthWellFormed depth) : Yields Scanned.WellFormed (piece depth) :=
  .either (existsTest_wellFormed hd)
    (.open? hd (fun inside => .bind inside.brackets fun inner => .andThen fun _ => .pure inner)
      (.andThen fun _ => .pure fun _ none_ => nomatch none_))

/-- Pieces in brackets are well formed together. -/
theorem brackets_wellFormed (hd : DepthWellFormed depth) : Yields Scanned.WellFormed (brackets depth) :=
  .bind (.manyUntil (piece_wellFormed hd)) fun pieces => .pure (Scanned.wellFormed_concat pieces)

/-- An expression has the variables of its tokens, each once, and well-formed tests. -/
theorem expression_wellFormed (hd : DepthWellFormed depth) (named : Bool) :
    Yields Expression.WellFormed (expression depth named) :=
  .bind (.many (.either (.pure trivial) (.either .refuse (piece_wellFormed hd).found))) fun pieces =>
    .pure (Scanned.wellFormed_expression (Scanned.wellFormed_concat pieces))

/-- The same of an expression that must not be empty. -/
theorem someExpression_wellFormed (hd : DepthWellFormed depth) (named : Bool) :
    Yields Expression.WellFormed (someExpression depth named) :=
  .bind (expression_wellFormed hd named) fun holds => by
    split
    · exact .refuse
    · exact .pure holds

/-- The name of a call adds no variable. -/
theorem functionCall_wellFormed (hd : DepthWellFormed depth) : Yields Expression.WellFormed (functionCall depth) :=
  .andThen fun _ => .andThen fun _ => .bind (expression_wellFormed hd false) fun holds => .andThen fun _ =>
    .pure (Expression.wellFormed holds.parts.1 holds.parts.2)

/-- A constraint is a test, an expression in brackets or a call. -/
theorem constraint_wellFormed (hd : DepthWellFormed depth) : Yields Expression.WellFormed (constraint depth) :=
  .either (.bind (someExpression_wellFormed hd false) fun holds => .andThen fun _ => .pure holds)
    (.either (.bind (existsTest_wellFormed hd) fun holds => .pure (Scanned.wellFormed_expression holds))
      (.either (functionCall_wellFormed hd) .refuse))

/-- The name of an expression is kept beside it. -/
theorem namedExpression_wellFormed (hd : DepthWellFormed depth) :
    Yields (fun pair => pair.1.WellFormed) (namedExpression depth) :=
  .bind (someExpression_wellFormed hd true) fun holds => .andThen fun _ => .andThen fun _ => .andThen fun _ =>
    .pure holds

/-! ## Selections and modifiers -/

/-- A projection in brackets is well formed if its expression is. -/
theorem projection?_wellFormed (hd : DepthWellFormed depth) :
    Yields (Given Projection.WellFormed) (projection? depth) :=
  .option (fun _ => .pure (Tree.everywhere_of_leaf trivial rfl))
    (.either
      (.bind (namedExpression_wellFormed hd) fun holds => .pure (Tree.everywhere_of_child trivial rfl holds))
      (.pure trivial))

/-- A selection has a star, or at least one projection. -/
theorem selection_wellFormed (hd : DepthWellFormed depth) : Yields Selection.WellFormed (selection depth) :=
  .andThen fun _ => .andThen fun duplicates => .either (.pure (Selection.wellFormed_everything duplicates))
    (.bind (.many (.within (projection?_wellFormed hd))) fun {list} holds => by
      split
      · exact .refuse
      · next some_ =>
        exact .pure (Selection.wellFormed_listed duplicates (fun none_ => some_ (by rw [none_]; rfl)) holds))

/-- A variable by itself is an expression. -/
theorem wellFormed_variable (token : Token) : Expression.WellFormed ⟨token.text, [token.name], []⟩ :=
  Expression.wellFormed (List.nodup_singleton _) fun _ none_ => nomatch none_

/-- The name behind a condition is one of its variables, each once. -/
theorem groupCondition?_wellFormed (hd : DepthWellFormed depth) :
    Yields (Given Expression.WellFormed) (groupCondition? depth) :=
  .option (fun token => .pure (wellFormed_variable token))
    (.either
      (.bind (expression_wellFormed hd true) fun inner => .either
        (.andThen fun _ => .andThen fun _ => .pure (Expression.wellFormed (nodup_eraseDups _) inner.parts.2))
        (.andThen fun _ => .pure inner))
      (.either (functionCall_wellFormed hd).found (.pure trivial)))

/-- A key is well formed if its expression is. -/
theorem orderKey?_wellFormed (hd : DepthWellFormed depth) :
    Yields (Given fun key => key.expression.WellFormed) (orderKey? depth) :=
  .option
    (fun _ => .andThen fun _ => .bind (expression_wellFormed hd false) fun holds => .andThen fun _ => .pure holds)
    (.option (fun token => .pure (wellFormed_variable token))
      (.either (.bind (constraint_wellFormed hd) fun holds => .pure holds) (.pure trivial)))

/-- The items of a clause are well formed one by one. -/
theorem clause_wellFormed {P : α → Prop} {keyword : Reader Bool} {missing : Expected} {item : Reader (Option α)}
    (h : Yields (Given P) item) : Yields (fun list => ∀ item ∈ list, P item) (clause keyword missing item) :=
  .either
    (.bind (.many h) fun all => by
      split
      · exact .refuse
      · exact .pure all)
    (.pure fun _ none_ => nomatch none_)

/-- The modifiers are well formed clause by clause. -/
theorem modifiers_wellFormed (hd : DepthWellFormed depth) : Yields Modifiers.WellFormed (modifiers depth) :=
  .bind (clause_wellFormed (.within (groupCondition?_wellFormed hd))) fun grouping =>
    .bind (clause_wellFormed (.within (.either (constraint_wellFormed hd).found (.pure trivial)))) fun constraints =>
      .bind (clause_wellFormed (.within (orderKey?_wellFormed hd))) fun keys =>
        .andThen fun _ => .pure (Modifiers.wellFormed grouping constraints keys)

/-! ## Groups -/

/-- The keyword in front of a group adds nothing. -/
theorem whereGroup_wellFormed (hd : DepthWellFormed depth) : Yields Group.WellFormed (whereGroup depth) :=
  .andThen fun _ => group_wellFormed hd

/-- A sub-select is well formed in its clauses and its group. -/
theorem subSelect_wellFormed (hd : DepthWellFormed depth) : Yields SubSelect.WellFormed (subSelect depth) :=
  .bind (selection_wellFormed hd) fun columns => .bind (whereGroup_wellFormed hd) fun pattern =>
    .bind (modifiers_wellFormed hd) fun behind => .bind values?_wellFormed fun block =>
      .pure (SubSelect.wellFormed columns pattern behind block)

/-- A union has two alternatives or more. -/
theorem alternatives_wellFormed (hd : DepthWellFormed depth) : Yields Element.WellFormed (alternatives depth) :=
  .bind (group_wellFormed hd) fun first =>
    .bind (.many (.either (group_wellFormed hd).found (.pure trivial))) fun {others} all => by
      cases others with
      | nil => exact .pure (Tree.everywhere_of_child trivial rfl first)
      | cons second others =>
        obtain ⟨second, others⟩ := List.forall_mem_cons.mp all
        exact .pure (Element.wellFormed_union first second others)

/-- **A pattern is well formed**, keyword by keyword. -/
theorem pattern_wellFormed (hd : DepthWellFormed depth) : Yields Element.WellFormed (pattern depth) := by
  refine .either (alternatives_wellFormed hd) (.either ?_ (.either ?_ (.either ?_ (.either ?_ (.either ?_ (.either ?_ ?_))))))
  · exact .bind (group_wellFormed hd) fun holds => .pure (Tree.everywhere_of_child trivial rfl holds)
  · exact .bind (group_wellFormed hd) fun holds => .pure (Tree.everywhere_of_child trivial rfl holds)
  · exact .andThen fun _ => .bind (group_wellFormed hd) fun holds => .pure (Tree.wellFormed_of_target trivial rfl holds)
  · exact .andThen fun _ => .andThen fun _ => .bind (group_wellFormed hd) fun holds =>
      .pure (Tree.wellFormed_of_target trivial rfl holds)
  · exact .bind (constraint_wellFormed hd) fun holds => .pure (Tree.everywhere_of_child trivial rfl holds)
  · exact .andThen fun _ => .bind (namedExpression_wellFormed hd) fun holds =>
      .pure (Tree.everywhere_of_child trivial rfl holds)
  · exact .bind values_wellFormed fun holds => .pure holds

/-- A turn of a group gives well-formed elements. -/
theorem elements_wellFormed (hd : DepthWellFormed depth) :
    Yields (Turn.Given fun list => ∀ element ∈ list, element.WellFormed) (elements depth) := by
  refine .either (.pure trivial) (.either ?_ (.either ?_ (.andThen fun _ => .refuse)))
  · exact .bind (pattern_wellFormed hd) fun holds => .andThen fun _ => .pure (List.forall_mem_singleton.mpr holds)
  · refine .bind (triples_wellFormed hd) fun {list} holds => ?_
    have triples : ∀ element ∈ list.map Element.triple, element.WellFormed := List.forall_mem_map.mpr holds
    exact .either (.pure triples) (.either (.pure triples) (.pure triples))

/-- A group holds a sub-select or well-formed elements. -/
theorem content_wellFormed (hd : DepthWellFormed depth) : Yields Group.WellFormed (content depth) :=
  .either (.bind (subSelect_wellFormed hd) fun holds => .pure (Group.wellFormed_selection holds))
    (.bind (.loop (elements_wellFormed hd)) fun lists =>
      .pure (Group.wellFormed_pattern (List.forall_mem_flatten.mpr lists)))

/-- **What can be read inside a bracket is well formed**, however many brackets may be open within it. -/
theorem inside_wellFormed (brackets : Nat) : DepthWellFormed (inside brackets) := by
  induction brackets with
  | zero => exact trivial
  | succ brackets ih =>
    exact ⟨node_wellFormed ih, properties_wellFormed ih, brackets_wellFormed ih, content_wellFormed ih⟩

/-! ## Operations -/

/-- A template is a group. -/
theorem template_wellFormed (hd : DepthWellFormed depth) : Yields Group.WellFormed (template depth) :=
  .within (group_wellFormed hd)

/-- An operation with a group has at least one template. -/
theorem modify_wellFormed (hd : DepthWellFormed depth) (deleted inserted : Option Group)
    (removes : Given Group.WellFormed deleted) (asserts : Given Group.WellFormed inserted) :
    Yields Operation.WellFormed (modify depth deleted inserted) :=
  .andThen fun _ => .andThen fun _ => .bind (group_wellFormed hd) fun {group} holds =>
    .pure (Operation.wellFormed (some group) deleted inserted rfl holds removes asserts)

/-- An operation on data or by a group is well formed in either form. -/
theorem deleteInsert_wellFormed (hd : DepthWellFormed depth) : Yields Operation.WellFormed (deleteInsert depth) :=
  .bind (template_wellFormed hd) fun {deleted} removes => .either
    (.bind (template_wellFormed hd).found fun {inserted} asserts => modify_wellFormed hd deleted inserted removes asserts)
    (modify_wellFormed hd deleted none removes trivial)

/-- An operation on whole graphs has no parts. -/
theorem manage_wellFormed (management : Management) : Yields Operation.WellFormed (manage management) := by
  have done : Yields Operation.WellFormed (pure (.manage management)) :=
    .pure (Operation.wellFormed none none none rfl trivial trivial trivial)
  refine .andThen fun _ => ?_
  cases management with
  | load => exact .andThen fun _ => .either (.andThen fun _ => .andThen fun _ => done) done
  | clear => exact .either (.andThen fun _ => done) (.andThen fun _ => done)
  | drop => exact .either (.andThen fun _ => done) (.andThen fun _ => done)
  | create => exact .andThen fun _ => .andThen fun _ => done
  | add => exact .andThen fun _ => .andThen fun _ => .andThen fun _ => done
  | move => exact .andThen fun _ => .andThen fun _ => .andThen fun _ => done
  | copy => exact .andThen fun _ => .andThen fun _ => .andThen fun _ => done

/-- An operation is well formed, whichever it is. -/
theorem operation_wellFormed (hd : DepthWellFormed depth) : Yields Operation.WellFormed (operation depth) := by
  have inserts : Yields Operation.WellFormed
      (do
        let inserted ← template depth
        modify depth none (some inserted)) :=
    .bind (template_wellFormed hd) fun {inserted} asserts => modify_wellFormed hd none (some inserted) trivial asserts
  refine .option (fun token => ?_) (.either (.either ?_ inserts)
    (.either (.either ?_ (.either ?_ (deleteInsert_wellFormed hd))) (.either ?_ .refuse)))
  · dsimp only
    cases management? token with
    | none => exact .refuse
    | some management => exact manage_wellFormed management
  · exact .bind (template_wellFormed hd) fun {inserted} holds =>
      .pure (Operation.wellFormed none none (some inserted) rfl trivial trivial holds)
  · exact .bind (template_wellFormed hd) fun {deleted} holds =>
      .pure (Operation.wellFormed none (some deleted) none rfl trivial holds trivial)
  · exact .bind (group_wellFormed hd) fun {group} holds =>
      .pure (Operation.wellFormed (some group) none none rfl holds trivial trivial)
  · exact .andThen fun _ => .either inserts (.andThen fun _ => deleteInsert_wellFormed hd)

/-- Each turn of an update brings an operation. -/
theorem operationTurn_wellFormed (hd : DepthWellFormed depth) :
    Yields (fun turn : Turn (Operation × Prologue) => turn ≠ .stop ∧ turn.Given fun pair => pair.1.WellFormed)
      (operationTurn depth) := by
  have last {pair : Operation × Prologue} (holds : pair.1.WellFormed) :
      Yields (fun turn : Turn (Operation × Prologue) => turn ≠ .stop ∧ turn.Given fun pair => pair.1.WellFormed)
        (pure (.last pair)) := .pure ⟨(fun same => nomatch same), holds⟩
  refine .bind (operation_wellFormed hd) fun holds => .either ?_ (last holds)
  refine .andThen fun _ => .andThen fun _ => ?_
  split
  · exact .pure ⟨(fun same => nomatch same), holds⟩
  · exact last holds

/-! ## All forms -/

/-- A query with the body is well formed, whatever its prologue. -/
abbrev BodyWellFormed (body : Query.Body) : Prop :=
  ∀ prologue, Query.WellFormed ⟨prologue, body⟩

/-- A selection is well formed in all its clauses. -/
theorem selectBody_wellFormed (hd : DepthWellFormed depth) : Yields BodyWellFormed (selectBody depth) :=
  .bind (selection_wellFormed hd) fun columns => .andThen fun _ => .bind (whereGroup_wellFormed hd) fun pattern =>
    .bind (modifiers_wellFormed hd) fun behind => .bind values?_wellFormed fun block =>
      .pure fun _ => Query.wellFormed (fun same => nomatch same) columns pattern behind block (List.forall_mem_nil _)

/-- A test is well formed in its group and its modifiers. -/
theorem askBody_wellFormed (hd : DepthWellFormed depth) : Yields BodyWellFormed (askBody depth) :=
  .andThen fun _ => .andThen fun _ => .bind (whereGroup_wellFormed hd) fun pattern =>
    .bind (modifiers_wellFormed hd) fun behind => .bind values?_wellFormed fun block =>
      .pure fun _ => Query.wellFormed (fun same => nomatch same) trivial pattern behind block (List.forall_mem_nil _)

/-- A construction is well formed in its template and its group. -/
theorem constructBody_wellFormed (hd : DepthWellFormed depth) : Yields BodyWellFormed (constructBody depth) := by
  have pattern : Yields Group.WellFormed (constructGroup depth) :=
    .either (.andThen fun _ => .andThen fun _ => whereGroup_wellFormed hd)
      (.andThen fun _ => .andThen fun _ => group_wellFormed hd)
  exact .andThen fun _ => .bind pattern fun pattern => .bind (modifiers_wellFormed hd) fun behind =>
    .bind values?_wellFormed fun block =>
      .pure fun _ => Query.wellFormed (fun same => nomatch same) trivial pattern behind block (List.forall_mem_nil _)

/-- A description names a resource, or a star stands for them. -/
theorem describeBody_wellFormed (hd : DepthWellFormed depth) : Yields BodyWellFormed (describeBody depth) := by
  refine .andThen fun _ => .andThen fun _ => .andThen fun _ => .andThen fun _ => .andThen fun _ => ?_
  have rest {found : Option Group} (pattern : Given Group.WellFormed found) : Yields BodyWellFormed
      (do
        let modifiers ← modifiers depth
        return .describe found modifiers (← values?)) :=
    .bind (modifiers_wellFormed hd) fun behind => .bind values?_wellFormed fun block =>
      .pure fun _ => Query.wellFormed (fun same => nomatch same) trivial pattern behind block (List.forall_mem_nil _)
  split
  · exact .bind (group_wellFormed hd).found fun holds => rest holds
  · exact rest (trivial : Given Group.WellFormed none)

/-- An update has at least one operation. -/
theorem updateBody_wellFormed (hd : DepthWellFormed depth) :
    Yields (fun list : List (Operation × Prologue) => BodyWellFormed (.update (list.map (·.1))))
      (loop (operationTurn depth)) := by
  have turns := operationTurn_wellFormed hd
  intro tokens rest list read prologue
  have some_ : list ≠ [] := Yields.loop_ne_nil (turns.mono And.left) read
  have each : ∀ pair ∈ list, pair.1.WellFormed := Yields.loop (turns.mono And.right) read
  exact Query.wellFormed (fun _ none_ => some_ (List.map_eq_nil_iff.mp none_)) trivial trivial
    (Modifiers.wellFormed (List.forall_mem_nil _) (List.forall_mem_nil _) (List.forall_mem_nil _)) trivial
    (List.forall_mem_map.mpr each)

/-- **The body of a query is well formed** in each form. -/
theorem body_wellFormed (hd : DepthWellFormed depth) : Yields (fun pair => BodyWellFormed pair.1) (body depth) :=
  .either (.bind (selectBody_wellFormed hd) fun holds => .pure holds)
    (.either (.bind (askBody_wellFormed hd) fun holds => .pure holds)
      (.either (.bind (constructBody_wellFormed hd) fun holds => .pure holds)
        (.either (.bind (describeBody_wellFormed hd) fun holds => .pure holds)
          (.either (.bind (updateBody_wellFormed hd) fun holds => .pure holds) .refuse))))

/-- **A query that is read is well formed.** -/
theorem query_wellFormed (hd : DepthWellFormed depth) : Yields Query.WellFormed (query depth) :=
  .andThen fun declarations => .bind (body_wellFormed hd) fun {pair} holds => .andThen fun _ => by
    obtain ⟨body, further⟩ := pair
    dsimp only
    split
    · exact .refuse
    · exact .pure (holds _)

end Reader

/-- **Every node of every query that a text writes is well formed.** -/
theorem parse_wellFormed {limits : Limits} {text : Text} {query : Query} (h : parse limits text = .ok query) :
    query.tree.WellFormed := by
  obtain ⟨-, pieces, -, -, -, read⟩ := parse_eq_ok.mp h
  exact Reader.query_wellFormed (Reader.inside_wellFormed limits.maxDepth) read

/-- A test with a property list, a union and a block in it is well formed. -/
theorem parse_wellFormed_ask :
    ∃ query, parse .standard "ASK { [ ?p 1 ] . { } UNION { VALUES ?x { UNDEF } } }".toList =
      .ok query ∧ query.tree.WellFormed := by
  refine ⟨_, rfl, ?_⟩
  exact parse_wellFormed
    (show parse .standard "ASK { [ ?p 1 ] . { } UNION { VALUES ?x { UNDEF } } }".toList = _
      from rfl)

end QuerySignature
