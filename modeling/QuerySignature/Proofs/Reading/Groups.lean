import QuerySignature.Proofs.Reading.Expressions
import QuerySignature.Reading.Query

/-!
# Proofs/Reading/Groups — groups and queries side by side

The rules come together here: by induction on the brackets that may be open, what can be read inside a bracket
tracks (`inside_tracks`), and so do whole queries (`query_tracks`).  The blocks that a run shows are the
blocks of the query that it comes to.
-/

namespace QuerySignature

variable {L : Likeness}

/-! ## Blocks of what is put together -/

/-- The blocks of elements are those of each, in order. -/
theorem Element.blocksOfAll_append (first second : List Element) :
    Element.blocksOfAll (first ++ second) = Element.blocksOfAll first ++ Element.blocksOfAll second := by
  induction first with
  | nil => rfl
  | cons element first ih => rw [List.cons_append, Element.blocksOfAll, Element.blocksOfAll, ih, List.append_assoc]

/-- The blocks of lists of elements are those of the elements put together. -/
theorem Element.blocksOfAll_flatten (lists : List (List Element)) :
    lists.flatMap Element.blocksOfAll = Element.blocksOfAll lists.flatten := by
  induction lists with
  | nil => rfl
  | cons list lists ih => rw [List.flatMap_cons, List.flatten_cons, ih, Element.blocksOfAll_append]

/-- No block stands in triples. -/
theorem Element.blocksOfAll_triples (list : List Triple) :
    Element.blocksOfAll (list.map Element.triple) = [] := by
  induction list with
  | nil => rfl
  | cons triple list ih => exact ih

/-- Triples are alike only if they are the same. -/
theorem Element.likeAll_triples (list : List Triple) :
    Element.LikeAll L (list.map Element.triple) (list.map Element.triple) := by
  induction list with
  | nil => trivial
  | cons triple list ih => exact ⟨rfl, ih⟩

/-- Like lists of elements put together are alike. -/
theorem Element.likeAll_flatten {lists lists' : List (List Element)}
    (h : List.Forall₂ (Element.LikeAll L) lists lists') : Element.LikeAll L lists.flatten lists'.flatten := by
  induction h with
  | nil => trivial
  | cons first _ ih =>
    exact Element.likeAll_iff.mpr (List.rel_append (Element.likeAll_iff.mp first) (Element.likeAll_iff.mp ih))

/-- The blocks of groups are those of each, in order. -/
theorem Group.flatMap_blocks (list : List Group) : list.flatMap Group.blocks = Group.blocksOfAll list := by
  induction list with
  | nil => rfl
  | cons group list ih => rw [List.flatMap_cons, ih, Group.blocksOfAll]

namespace Reader

variable {depth depth' : Option Inside}

/-! ## Groups -/

/-- The keyword in front of a group is taken in both runs or in neither. -/
theorem whereGroup_tracks (hd : DepthTracks L.lenient depth depth') :
    Tracks L [] Group.blocks (Group.Like L) (whereGroup depth) (whereGroup depth') :=
  .same (accept_tracks (.spells _)) fun _ => group_tracks hd

/-- The expressions of a sub-select are read inside a region, and its group is not. -/
theorem subSelect_tracks (hd : DepthTracks L.lenient depth depth') :
    Tracks L [] SubSelect.blocks (SubSelect.Like L) (subSelect depth) (subSelect depth') :=
  .andThen (selection_tracks hd) fun selection => (whereGroup_tracks hd).bind fun group =>
    .andThen (modifiers_tracks hd) fun modifiers => values?_tracks.bind fun values =>
      .pure rfl ⟨selection, group, modifiers, values⟩

/-- One group stays a group, and more are a union, in both runs the same. -/
theorem alternatives_tracks (hd : DepthTracks L.lenient depth depth') :
    Tracks L [] Element.blocks (Element.Like L) (alternatives depth) (alternatives depth') :=
  (group_tracks hd).bind fun {first _} related =>
    (many_tracks (.ifAccept (.spells _) (group_tracks hd).found (.pure rfl .none)) (.orElse' (.pure nofun))
      (.orElse' (.pure nofun))).bind fun
    | .nil => .pure (List.append_nil first.blocks) related
    | .cons second others => .pure (by
        rw [List.flatMap_cons, Group.flatMap_blocks, List.nil_append, ← List.append_assoc]
        rfl) ⟨related, second, Group.likeAll_iff.mpr others⟩

/-- **Patterns track**, keyword by keyword; the blocks in a filter are shown. -/
theorem pattern_tracks (hd : DepthTracks L.lenient depth depth') :
    Tracks L [] Element.blocks (Element.Like L) (pattern depth) (pattern depth') :=
  .ifNext (.isSymbol _) (alternatives_tracks hd)
    (.ifAccept (.spells _) ((group_tracks hd).bind fun group => .pure rfl group)
      (.ifAccept (.spells _) ((group_tracks hd).bind fun group => .pure rfl group)
        (.ifAccept (.spells _)
          (.same target_tracks fun _ => (group_tracks hd).bind fun group => .pure rfl ⟨rfl, group⟩)
          (.ifAccept (.spells _)
            (.same (accept_tracks (.spells _)) fun _ => .same target_tracks fun _ =>
              (group_tracks hd).bind fun group => .pure rfl ⟨rfl, rfl, group⟩)
            (.ifAccept (.spells _) ((constraint_tracks hd).bind fun expression => .pure rfl expression)
              (.ifAccept (.spells _)
                (.symbol fun _ => (namedExpression_tracks hd).bind fun related => .pure rfl related)
                (values_tracks.bind fun stands => .pure rfl stands)))))))

/-- A block takes its keyword. -/
theorem Progress.values {P : Values → Prop} : Progress P Reader.values := by
  have content : Progress (fun _ => True) valuesContent := Progress.require.of_first
  exact fun _ _ _ read _ => content read trivial

/-- A pattern takes a token. -/
theorem Progress.pattern {P : Element → Prop} : Progress P (Reader.pattern depth) :=
  .choice Progress.group.of_first (.orElse' (.orElse' (.orElse' (.orElse' (.orElse' (.orElse'
    Progress.values.of_first))))))

/-- What starts a pattern, a like token starts. -/
theorem startsPattern_respects : Respects startsPattern :=
  .or (.isSymbol _) (.spells _)

/-- A turn of a group is a pattern or triples, in both runs the same. -/
theorem elements_tracks (hd : DepthTracks L.lenient depth depth') :
    Tracks L [] (Turn.blocks Element.blocksOfAll) (Turn.Like (Element.LikeAll L)) (elements depth)
      (elements depth') :=
  .ifNext (.isSymbol _) (.pure rfl .stop)
    (.ifNext startsPattern_respects
      ((pattern_tracks hd).bind fun element => .same (accept_tracks (.isSymbol _)) fun _ =>
        .pure (List.append_nil _).symm (.more ⟨element, trivial⟩))
      (.same startsNode_tracks fun
        | true => .same (triples_tracks hd) fun list =>
          have triples := Element.likeAll_triples list
          have none_ := (Element.blocksOfAll_triples list).symm
          .ifAccept (.isSymbol _) (.pure none_ (.more triples))
            (.ifNext startsPattern_respects (.pure none_ (.more triples)) (.pure none_ (.last triples)))
        | false => .andThen peek_tracks fun found => by
          cases found <;> exact refuse_tracks _))

/-- A turn that goes on has taken a token. -/
theorem Progress.elements {P : Turn (List Element) → Prop} (h : ¬P .stop) :
    Progress P (Reader.elements depth) :=
  .choice (.pure h) (.choice Progress.pattern.of_first (.choice Progress.triples.of_first
    (.of_second fun _ => .refuse _)))

/-- **The content of a group tracks**: a sub-select, or elements with points between them. -/
theorem content_tracks (hd : DepthTracks L.lenient depth depth') :
    Tracks L [] Group.blocks (Group.Like L) (content depth) (content depth') :=
  .ifNext (.spells _) ((subSelect_tracks hd).bind fun inner => .pure rfl inner)
    ((loop_tracks (elements_tracks hd) (.elements id) (.elements id)).bind fun lists =>
      .pure (Element.blocksOfAll_flatten _) (Element.likeAll_flatten lists))

/-- **What can be read inside a bracket tracks**, in the second run with as many brackets to open, or with more
if the likeness is lenient. -/
theorem inside_tracks {lenient : Prop} {brackets : Nat} :
    ∀ {brackets' : Nat}, brackets = brackets' ∨ lenient ∧ brackets ≤ brackets' →
      DepthTracks lenient (inside brackets) (inside brackets') := by
  induction brackets with
  | zero =>
    intro brackets' enough L same
    cases brackets' with
    | zero => trivial
    | succ brackets' => exact enough.elim nofun And.left
  | succ brackets ih =>
    intro brackets' enough L same
    cases brackets' with
    | zero => exact enough.elim nofun fun h => absurd h.2 (Nat.not_succ_le_zero _)
    | succ brackets' =>
      have hd : DepthTracks L.lenient (inside brackets) (inside brackets') := by
        rw [same]
        exact ih (enough.imp Nat.succ.inj fun h => ⟨h.1, Nat.le_of_succ_le_succ h.2⟩)
      exact ⟨path_tracks hd, node_tracks hd, properties_tracks hd, brackets_tracks hd, content_tracks hd,
        Progress.node, Progress.node⟩

/-! ## Prologues -/

/-- A prefixed name keeps its text. -/
theorem text_of_isPrefixedName {t t' : Token} (alike : t.Alike t') (is : t.isPrefixedName = true) :
    t'.text = t.text := by
  have kind : t.kind = .prefixedName := of_decide_eq_true ((Bool.and_eq_true _ _).mp is).1
  exact alike.text (by rw [kind]; decide) (by rw [kind]; decide)

/-- A property of the text of names. -/
theorem isPrefixedName_and_respects (q : Text → Bool) :
    Respects fun token => token.isPrefixedName && q token.text := by
  intro t t' like
  beta_reduce
  rw [Respects.isPrefixedName like]
  cases is : t.isPrefixedName with
  | false => rfl
  | true => rw [text_of_isPrefixedName like is]

/-- A prefix is kept up to its colon. -/
theorem namespaceLabel_tracks : Plain L Eq namespaceLabel namespaceLabel := by
  have label : Plain L Eq (do return (← require .namespaceLabel isNamespaceLabel).text.dropLast)
      (do return (← require .namespaceLabel isNamespaceLabel).text.dropLast) :=
    .require (isPrefixedName_and_respects fun text => (text.dropWhile (· != ':')).length == 1) fun accepted =>
      .pure rfl (by rw [text_of_isPrefixedName accepted.alike ((Bool.and_eq_true _ _).mp accepted.2).1])
  refine .andThen peek_tracks fun found => ?_
  cases found with
  | none => exact refuse_tracks _
  | @some t t' ahead =>
    have alike := L.alike ahead
    have same := isPrefixedName_and_respects (fun text => !text.contains ':') alike
    dsimp only at same ⊢
    by_cases colonless : (t.isPrefixedName && !t.text.contains ':') = true
    · rw [if_pos colonless, if_pos (same.trans colonless),
        text_of_isPrefixedName alike ((Bool.and_eq_true _ _).mp colonless).1]
      exact .stop fun _ => .unreadable _
    · rw [if_neg colonless, if_neg (same ▸ colonless)]
      exact label

/-- A declaration is the same in both runs. -/
theorem declaration?_tracks : Plain L (Option.Rel Eq) declaration? declaration? :=
  .ifAccept (.spells _) (.same iri_tracks fun _ => .pure rfl (.some rfl))
    (.ifAccept (.spells _)
      (.same namespaceLabel_tracks fun _ => .same iri_tracks fun _ => .pure rfl (.some rfl))
      (.pure rfl .none))

/-- A declaration takes its keyword. -/
theorem Progress.declaration? : Progress Found Reader.declaration? :=
  .orElse' (.orElse' (.pure nofun))

/-- A prologue is its declarations, in order. -/
theorem prologue_tracks : Plain L Eq prologue prologue :=
  (many_plain declaration?_tracks .declaration? .declaration?).mono fun same => List.forall₂_eq_eq_eq ▸ same

/-- Dataset clauses are the same in both runs. -/
theorem datasets_tracks : Plain L Eq datasets datasets :=
  .andThen
    (many_plain (V := Eq)
      (.ifAccept (.spells _)
        (.same (accept_tracks (.spells _)) fun _ => .same resource_tracks fun _ => .pure rfl (.some rfl))
        (.pure rfl .none))
      (.orElse' (.pure nofun)) (.orElse' (.pure nofun)))
    fun _ => .pure rfl rfl

/-- What is described is the same in both runs. -/
theorem described_tracks : Plain L Eq described described :=
  .ifAccept (.isSymbol _) (.pure rfl rfl)
    (.andThen (many_plain (accept?_tracks (.or (.or (.isKind _) (.isKind _)) (.isKind _))) .accept? .accept?)
      fun list => by
        rw [isEmpty_of_forall₂ list]
        split
        · exact refuse_tracks _
        · exact .pure rfl rfl)

end Reader

/-! ## Forms -/

/-- The blocks of a query with the body. -/
def Query.Body.blocks (body : Query.Body) : List Values :=
  Query.blocks ⟨[], body⟩

/-- The blocks of the group that an operation matches. -/
def Operation.blocks (operation : Operation) : List Values :=
  (operation.group?.map Group.blocks).getD []

namespace Reader

variable {depth depth' : Option Inside}

/-- A template is read inside a region, so its blocks are not shown. -/
theorem template_tracks (hd : DepthTracks L.lenient depth depth') :
    Plain L (Group.Like (L.within .template)) (template depth) (template depth') :=
  within_tracks (group_tracks (L := L.within .template) hd)

/-- The blocks of a selection are those of its group, and the one behind it. -/
theorem selectBody_tracks (hd : DepthTracks L.lenient depth depth') :
    Tracks L [] Query.Body.blocks (Query.Body.Like L) (selectBody depth) (selectBody depth') :=
  .andThen (selection_tracks hd) fun selection => .same datasets_tracks fun _ =>
    (whereGroup_tracks hd).bind fun group => .andThen (modifiers_tracks hd) fun modifiers =>
      values?_tracks.bind fun values =>
        .pure (List.append_nil _).symm (.select selection group modifiers values)

/-- The blocks of a test are those of its group, and the one behind it. -/
theorem askBody_tracks (hd : DepthTracks L.lenient depth depth') :
    Tracks L [] Query.Body.blocks (Query.Body.Like L) (askBody depth) (askBody depth') :=
  .word fun _ => .same datasets_tracks fun _ => (whereGroup_tracks hd).bind fun group =>
    .andThen (modifiers_tracks hd) fun modifiers => values?_tracks.bind fun values =>
      .pure (List.append_nil _).symm (.ask group modifiers values)

/-- A construction without a template takes its own triples for one. -/
theorem constructGroup_tracks (hd : DepthTracks L.lenient depth depth') :
    Tracks L [] Group.blocks (Group.Like L) (constructGroup depth) (constructGroup depth') :=
  .ifNext (.isSymbol _)
    (.andThen (template_tracks hd) fun _ => .same datasets_tracks fun _ => whereGroup_tracks hd)
    (.same datasets_tracks fun _ => .word fun _ => group_tracks hd)

/-- The blocks of a construction are those of its group, and the one behind it. -/
theorem constructBody_tracks (hd : DepthTracks L.lenient depth depth') :
    Tracks L [] Query.Body.blocks (Query.Body.Like L) (constructBody depth) (constructBody depth') :=
  .word fun _ => (constructGroup_tracks hd).bind fun group => .andThen (modifiers_tracks hd) fun modifiers =>
    values?_tracks.bind fun values => .pure (List.append_nil _).symm (.construct group modifiers values)

/-- A description without a group has at most the block behind it. -/
theorem describeBody_tracks (hd : DepthTracks L.lenient depth depth') :
    Tracks L [] Query.Body.blocks (Query.Body.Like L) (describeBody depth) (describeBody depth') := by
  refine .word fun _ => .same described_tracks fun _ => .same datasets_tracks fun _ => ?_
  refine .same (accept_tracks (.spells _)) fun wherever => .same (next_tracks (.isSymbol _)) fun brace => ?_
  have rest {found found' : Option Group} (group : Option.Rel (Group.Like L) found found') :
      Tracks L ((found.map Group.blocks).getD []) Query.Body.blocks (Query.Body.Like L)
        (do
          let modifiers ← modifiers depth
          return .describe found modifiers (← values?))
        (do
          let modifiers ← modifiers depth'
          return .describe found' modifiers (← values?)) :=
    .andThen (modifiers_tracks hd) fun modifiers => values?_tracks.bind fun values =>
      .pure (List.append_nil _).symm (.describe group modifiers values)
  split
  · exact (group_tracks hd).found.bind rest
  · exact rest .none

/-! ## Updates -/

/-- A graph is the same in both runs. -/
theorem graphOrDefault_tracks : Plain L Eq graphOrDefault graphOrDefault :=
  .ifAccept (.spells _) (.pure rfl rfl)
    (.same (accept_tracks (.spells _)) fun _ => .same resource_tracks fun _ => .pure rfl rfl)

/-- Only the group of an operation shows its blocks. -/
theorem modify_tracks (hd : DepthTracks L.lenient depth depth') {deleted inserted deleted' inserted' : Option Group}
    (hdeleted : Option.Rel (Group.Like (L.within .template)) deleted deleted')
    (hinserted : Option.Rel (Group.Like (L.within .template)) inserted inserted') :
    Tracks L [] Operation.blocks (Operation.Like L) (modify depth deleted inserted)
      (modify depth' deleted' inserted') :=
  .andThen
    (many_plain (V := Eq)
      (.ifAccept (.spells _)
        (.same (accept_tracks (.spells _)) fun _ => .same resource_tracks fun _ => .pure rfl (.some rfl))
        (.pure rfl .none))
      (.orElse' (.pure nofun)) (.orElse' (.pure nofun)))
    fun _ => .word fun _ => (group_tracks hd).bind fun group => .pure rfl (.modify hdeleted hinserted group)

/-- The templates in front of a group are alike, and read inside a region. -/
theorem deleteInsert_tracks (hd : DepthTracks L.lenient depth depth') :
    Tracks L [] Operation.blocks (Operation.Like L) (deleteInsert depth) (deleteInsert depth') :=
  .andThen (template_tracks hd) fun deleted => .ifAccept (.spells _)
    (.andThen ((template_tracks hd).found.recount fun found => by cases found <;> rfl) fun inserted =>
      modify_tracks hd (.some deleted) inserted)
    (modify_tracks hd (.some deleted) .none)

/-- An operation on whole graphs is the same in both runs. -/
theorem manage_tracks (management : Management) :
    Tracks L [] Operation.blocks (Operation.Like L) (manage management) (manage management) := by
  have done : Tracks L [] Operation.blocks (Operation.Like L) (pure (.manage management))
      (pure (.manage management)) := .pure rfl (.manage management)
  have clears : Tracks L [] Operation.blocks (Operation.Like L)
      (do
        if ← accept (·.spells ["GRAPH"]) then
          let _ ← resource
        else
          let _ ← word ["DEFAULT", "NAMED", "ALL"]
        return .manage management)
      (do
        if ← accept (·.spells ["GRAPH"]) then
          let _ ← resource
        else
          let _ ← word ["DEFAULT", "NAMED", "ALL"]
        return .manage management) :=
    .ifAccept (.spells _) (.same resource_tracks fun _ => done) (.word fun _ => done)
  have copies : Tracks L [] Operation.blocks (Operation.Like L)
      (do
        graphOrDefault
        let _ ← word ["TO"]
        graphOrDefault
        return .manage management)
      (do
        graphOrDefault
        let _ ← word ["TO"]
        graphOrDefault
        return .manage management) :=
    .same graphOrDefault_tracks fun _ => .word fun _ => .same graphOrDefault_tracks fun _ => done
  refine .same (accept_tracks (.spells _)) fun _ => ?_
  cases management with
  | load =>
    exact .same resource_tracks fun _ => .ifAccept (.spells _)
      (.word fun _ => .same resource_tracks fun _ => done) done
  | clear => exact clears
  | drop => exact clears
  | create => exact .word fun _ => .same resource_tracks fun _ => done
  | add => exact copies
  | move => exact copies
  | copy => exact copies

/-- What names such an operation, a like token names. -/
theorem management?_respects : Respects management? := by
  intro t t' like
  unfold management?
  congr 1
  funext management
  exact Respects.spells _ like

/-- **Operations track**, keyword by keyword. -/
theorem operation_tracks (hd : DepthTracks L.lenient depth depth') :
    Tracks L [] Operation.blocks (Operation.Like L) (operation depth) (operation depth') :=
  .accept? (management?_respects.map Option.isSome)
    (fun {t t'} accepted => by
      dsimp only
      rw [management?_respects accepted.alike]
      cases management? t with
      | none => exact refuse_tracks _
      | some management => exact manage_tracks management)
    (.ifAccept (.spells _)
      (.ifAccept (.spells _) (.andThen (template_tracks hd) fun group => .pure rfl (.insertData group))
        (.andThen (template_tracks hd) fun inserted => modify_tracks hd .none (.some inserted)))
      (.ifAccept (.spells _)
        (.ifAccept (.spells _) (.andThen (template_tracks hd) fun group => .pure rfl (.deleteData group))
          (.ifAccept (.spells _) ((group_tracks hd).bind fun group => .pure rfl (.deleteWhere group))
            (deleteInsert_tracks hd)))
        (.ifAccept (.spells _)
          (.same resource_tracks fun _ => .ifAccept (.spells _)
            (.andThen (template_tracks hd) fun inserted => modify_tracks hd .none (.some inserted))
            (.word fun _ => deleteInsert_tracks hd))
          (refuse_tracks _))))

/-- An operation takes its keyword. -/
theorem Progress.operation : Progress (fun _ => True) (Reader.operation depth) :=
  .orElse (.orElse' (.orElse' (.orElse' (.refuse _))))

/-- A turn is an operation, with a semicolon and declarations behind it or with neither. -/
theorem operationTurn_tracks (hd : DepthTracks L.lenient depth depth') :
    Tracks L [] (Turn.blocks fun pair => pair.1.blocks)
      (Turn.Like fun pair pair' => pair.1.Like L pair'.1 ∧ pair.2 = pair'.2) (operationTurn depth)
      (operationTurn depth') :=
  (operation_tracks hd).bind fun operation => .ifAccept (.isSymbol _)
    (.same prologue_tracks fun _ => .andThen peek_tracks fun found => by
      cases found with
      | none => exact .pure rfl (.last ⟨operation, rfl⟩)
      | some => exact .pure rfl (.more ⟨operation, rfl⟩))
    (.pure rfl (.last ⟨operation, rfl⟩))

/-! ## All forms -/

/-- The blocks of an update are those of its operations, in order. -/
theorem Operation.flatMap_blocks {pairs : List (Operation × Prologue)} :
    (pairs.flatMap fun pair => pair.1.blocks) = Query.Body.blocks (.update (pairs.map (·.1))) := by
  change _ = (pairs.map (·.1)).flatMap Operation.blocks
  rw [List.flatMap_map]

/-- **Bodies track** in each form. -/
theorem body_tracks (hd : DepthTracks L.lenient depth depth') :
    Tracks L [] (fun pair => pair.1.blocks) (fun pair pair' => pair.1.Like L pair'.1 ∧ pair.2 = pair'.2)
      (body depth) (body depth') :=
  .ifNext (.spells _) ((selectBody_tracks hd).bind fun body => .pure rfl ⟨body, rfl⟩)
    (.ifNext (.spells _) ((askBody_tracks hd).bind fun body => .pure rfl ⟨body, rfl⟩)
      (.ifNext (.spells _) ((constructBody_tracks hd).bind fun body => .pure rfl ⟨body, rfl⟩)
        (.ifNext (.spells _) ((describeBody_tracks hd).bind fun body => .pure rfl ⟨body, rfl⟩)
          (.ifNext (.spells _)
            ((loop_tracks (operationTurn_tracks hd) Progress.operation.of_first Progress.operation.of_first).bind
              fun pairs => .pure Operation.flatMap_blocks ⟨.update (by
                induction pairs with
                | nil => exact .nil
                | cons first _ ih => exact .cons first.1 ih), by
                induction pairs with
                | nil => rfl
                | cons first _ ih => exact congrArg₂ (· ++ ·) first.2 ih⟩)
            (refuse_tracks _)))))

/-- **Queries track.** -/
theorem query_tracks (hd : DepthTracks L.lenient depth depth') :
    Tracks L [] Query.blocks (Query.Like L) (query depth) (query depth') :=
  .same prologue_tracks fun _ => (body_tracks hd).bind fun related => .andThen peek_tracks fun found => by
    cases found with
    | none => exact .pure rfl ⟨by rw [related.2], related.1⟩
    | some => exact refuse_tracks _

end Reader

end QuerySignature
