import QuerySignature.Proofs.Orderly.Expressions
import QuerySignature.Reading.Query

/-!
# Proofs/Orderly/Groups — groups and whole queries

The rules come together here: by induction on the brackets that may still be open, what can be read inside a
bracket is orderly (`inside_orderly`), and so are whole queries (`query_orderly`), which start and end on the
ground.
-/

namespace QuerySignature.Reader

variable {S : Token → Prop} {ceiling level : Nat} {depth : Option Inside}

/-- The height of a group fits. -/
abbrev GroupFits (ceiling level : Nat) (group : Group) : Prop :=
  Fits ceiling level group.height

/-- The height of an element fits. -/
abbrev ElementFits (ceiling level : Nat) (element : Element) : Prop :=
  Fits ceiling level element.height

/-! ## Groups -/

theorem whereGroup_orderly (hd : DepthOrderly S ceiling level depth) :
    Orderly S ceiling level (GroupFits ceiling level) (whereGroup depth) :=
  .andThen accept_orderly fun _ => group_orderly hd

/-- A sub-select stands at the level of the group around it. -/
theorem subSelect_orderly (hd : DepthOrderly S ceiling level depth) :
    Orderly S ceiling level (fun inner => Fits ceiling level inner.height) (subSelect depth) :=
  .bind (selection_orderly hd) fun selection => .bind (whereGroup_orderly hd) fun group =>
    .bind (modifiers_orderly hd) fun modifiers => .andThen values?_orderly fun _ =>
      .pure fun _ => selection.max (group.max modifiers)

theorem alternatives_orderly (hd : DepthOrderly S ceiling level depth) :
    Orderly S ceiling level (ElementFits ceiling level) (alternatives depth) :=
  .bind (group_orderly hd) fun first =>
    .bind (many_orderly (.ifAccept (group_orderly hd).found (.pure fun _ => trivial))) fun {others} fit => by
      cases others with
      | nil => exact .pure fun _ => first
      | cons second others =>
        obtain ⟨second, others⟩ := List.forall_mem_cons.mp fit
        exact .pure fun low => first.max (second.max (.groups low others))

/-- Each pattern fits where it stands. -/
theorem pattern_orderly (hd : DepthOrderly S ceiling level depth) :
    Orderly S ceiling level (ElementFits ceiling level) (pattern depth) :=
  .ifNext (alternatives_orderly hd)
    (.ifAccept (.bind (group_orderly hd) fun fits => .pure fun _ => fits)
      (.ifAccept (.bind (group_orderly hd) fun fits => .pure fun _ => fits)
        (.ifAccept (.andThen target_orderly fun _ => .bind (group_orderly hd) fun fits => .pure fun _ => fits)
          (.ifAccept
            (.andThen accept_orderly fun _ => .andThen target_orderly fun _ =>
              .bind (group_orderly hd) fun fits => .pure fun _ => fits)
            (.ifAccept (.bind (constraint_orderly hd) fun fits => .pure fun _ => fits)
              (.ifAccept (.symbol fun _ => .bind (namedExpression_orderly hd) fun fits => .pure fun _ => fits)
                (.andThen values_orderly fun _ => .pure .zero)))))))

/-- The elements of a turn fit one by one. -/
theorem elements_orderly (hd : DepthOrderly S ceiling level depth) :
    Orderly S ceiling level (Turn.Given fun list => ∀ element ∈ list, ElementFits ceiling level element)
      (elements depth) :=
  .ifNext (.pure fun _ => trivial)
    (.ifNext
      (.bind (pattern_orderly hd) fun fits => .andThen accept_orderly fun _ =>
        .pure fun _ => List.forall_mem_singleton.mpr fits)
      (.andThen startsNode_orderly fun
        | true => .bind (triples_orderly hd) fun {list} fit => by
          have triples : ∀ element ∈ list.map Element.triple, ElementFits ceiling level element :=
            List.forall_mem_map.mpr fit
          exact .ifAccept (.pure fun _ => triples) (.ifNext (.pure fun _ => triples) (.pure fun _ => triples))
        | false => .andThen peek_orderly.anything fun _ => refuse_orderly _))

/-- What stands between the braces of a group fits around them. -/
theorem content_orderly (hd : DepthOrderly S ceiling (level + 1) depth) :
    Orderly S ceiling (level + 1) (GroupFits ceiling level) (content depth) :=
  .ifNext (.bind (subSelect_orderly hd) fun fits => .pure fun _ => fits.succ)
    (.bind (loop_orderly (elements_orderly hd)) fun lists => .pure fun low =>
      .succ (.all (f := Element.heightOfAll) rfl (fun _ _ => rfl) low (List.forall_mem_flatten.mpr lists)))

/-- **What can be read inside a bracket is orderly**, at the depth at which so many brackets are left. -/
theorem inside_orderly (brackets : Nat) :
    ∀ {level : Nat}, level + brackets = ceiling → DepthOrderly S ceiling level (inside brackets) := by
  induction brackets with
  | zero => exact fun same => same
  | succ brackets ih =>
    intro level same
    have hd : DepthOrderly S ceiling (level + 1) (inside brackets) := ih (by omega)
    have brackets_ : Orderly S ceiling (level + 1) (Scanned.Fits ceiling level) (Reader.brackets (inside brackets)) :=
      (brackets_orderly hd).mono fun fits group member => by
        have := fits group member
        unfold Fits at *
        omega
    exact ⟨by omega, path_orderly hd, node_orderly hd, properties_orderly hd, brackets_, content_orderly hd⟩

/-! ## Prologues -/

theorem namespaceLabel_orderly : Orderly S ceiling level Anything namespaceLabel :=
  .bind peek_orderly fun {found} given => by
    cases found with
    | none => exact refuse_orderly _
    | some token =>
      dsimp only
      split
      · next colonless =>
        obtain ⟨is, free⟩ := (Bool.and_eq_true _ _).mp colonless
        exact .stop fun _ _ _ => .unreadable given (.colonless is (by simpa using free))
      · exact .require fun _ => .pure fun _ => trivial

theorem prologue_orderly : Orderly S ceiling level Anything prologue :=
  many_anything
    (.ifAccept (.andThen iri_orderly fun _ => .pure fun _ => trivial)
      (.ifAccept
        (.andThen namespaceLabel_orderly fun _ => .andThen iri_orderly fun _ => .pure fun _ => trivial)
        (.pure fun _ => trivial)))

/-- Resources behind a keyword, and perhaps another one. -/
theorem named_orderly {first second : Token → Bool} : Orderly S ceiling level Anything
    (many do if ← accept first then let _ ← accept second; return some (← resource) else return none) :=
  many_anything
    (.ifAccept (.andThen accept_orderly fun _ => .andThen resource_orderly fun _ => .pure fun _ => trivial)
      (.pure fun _ => trivial))

theorem datasets_orderly : Orderly S ceiling level Anything datasets :=
  .andThen named_orderly fun _ => .pure fun _ => trivial

theorem described_orderly : Orderly S ceiling level Anything described :=
  .ifAccept (.pure fun _ => trivial)
    (.bind (many_orderly accept?_orderly) fun _ => by
      split
      · exact refuse_orderly _
      · exact .pure fun _ => trivial)

/-! ## Forms -/

/-- The height of a body fits. -/
abbrev BodyFits (ceiling level : Nat) (body : Query.Body) : Prop :=
  Fits ceiling level body.height

theorem template_orderly (hd : DepthOrderly S ceiling level depth) :
    Orderly S ceiling level (GroupFits ceiling level) (template depth) :=
  within_orderly (group_orderly hd)

theorem selectBody_orderly (hd : DepthOrderly S ceiling level depth) :
    Orderly S ceiling level (BodyFits ceiling level) (selectBody depth) :=
  .bind (selection_orderly hd) fun selection => .andThen datasets_orderly fun _ =>
    .bind (whereGroup_orderly hd) fun group => .bind (modifiers_orderly hd) fun modifiers =>
      .andThen values?_orderly fun _ => .pure fun _ => selection.max (group.max modifiers)

theorem askBody_orderly (hd : DepthOrderly S ceiling level depth) :
    Orderly S ceiling level (BodyFits ceiling level) (askBody depth) :=
  .word fun _ => .andThen datasets_orderly fun _ => .bind (whereGroup_orderly hd) fun group =>
    .bind (modifiers_orderly hd) fun modifiers => .andThen values?_orderly fun _ =>
      .pure fun _ => group.max modifiers

theorem constructGroup_orderly (hd : DepthOrderly S ceiling level depth) :
    Orderly S ceiling level (GroupFits ceiling level) (constructGroup depth) :=
  .ifNext
    (.bind (template_orderly hd) fun _ => .andThen datasets_orderly fun _ => whereGroup_orderly hd)
    (.andThen datasets_orderly fun _ => .word fun _ => group_orderly hd)

theorem constructBody_orderly (hd : DepthOrderly S ceiling level depth) :
    Orderly S ceiling level (BodyFits ceiling level) (constructBody depth) :=
  .word fun _ => .bind (constructGroup_orderly hd) fun group => .bind (modifiers_orderly hd) fun modifiers =>
    .andThen values?_orderly fun _ => .pure fun _ => group.max modifiers

theorem describeBody_orderly (hd : DepthOrderly S ceiling level depth) :
    Orderly S ceiling level (BodyFits ceiling level) (describeBody depth) := by
  refine .word fun _ => .andThen described_orderly fun _ => .andThen datasets_orderly fun _ => ?_
  refine .andThen accept_orderly fun _ => .andThen next_orderly fun _ => ?_
  have rest (found : Option Group) (group : Fits ceiling level (Group.heightOf? found)) :
      Orderly S ceiling level (BodyFits ceiling level)
        (do
          let modifiers ← modifiers depth
          return .describe found modifiers (← values?)) :=
    .bind (modifiers_orderly hd) fun modifiers => .andThen values?_orderly fun _ => .pure fun _ => group.max modifiers
  split
  · exact .bind (group_orderly hd).found fun {found} given => by
      cases found with
      | none => exact fun low => rest none (.zero low) low
      | some group => exact rest (some group) given
  · exact fun low => rest none (.zero low) low

/-! ## Updates -/

/-- The height of an operation fits. -/
abbrev OperationFits (ceiling level : Nat) (operation : Operation) : Prop :=
  Fits ceiling level operation.height

theorem graphOrDefault_orderly : Orderly S ceiling level Anything graphOrDefault :=
  .ifAccept (.pure fun _ => trivial)
    (.andThen accept_orderly fun _ => .andThen resource_orderly fun _ => .pure fun _ => trivial)

theorem modify_orderly (hd : DepthOrderly S ceiling level depth) (deleted inserted : Option Group)
    (hdeleted : Fits ceiling level (Group.heightOf? deleted))
    (hinserted : Fits ceiling level (Group.heightOf? inserted)) :
    Orderly S ceiling level (OperationFits ceiling level) (modify depth deleted inserted) :=
  .andThen named_orderly fun _ => .word fun _ => .bind (group_orderly hd) fun group =>
    .pure fun _ => hdeleted.max (hinserted.max group)

theorem deleteInsert_orderly (hd : DepthOrderly S ceiling level depth) :
    Orderly S ceiling level (OperationFits ceiling level) (deleteInsert depth) :=
  .bind (template_orderly hd) fun {deleted} fits => .ifAccept
    (.bind (template_orderly hd).found fun {found} given => by
      cases found with
      | none => exact fun low => modify_orderly hd (some deleted) none fits (.zero low) low
      | some inserted => exact modify_orderly hd (some deleted) (some inserted) fits given)
    fun low => modify_orderly hd (some deleted) none fits (.zero low) low

theorem manage_orderly (management : Management) :
    Orderly S ceiling level (OperationFits ceiling level) (manage management) := by
  have done : Orderly S ceiling level (OperationFits ceiling level) (pure (.manage management)) := .pure .zero
  have clears : Orderly S ceiling level (OperationFits ceiling level)
      (do
        if ← accept (·.spells ["GRAPH"]) then
          let _ ← resource
        else
          let _ ← word ["DEFAULT", "NAMED", "ALL"]
        return .manage management) :=
    .ifAccept (.andThen resource_orderly fun _ => done) (.word fun _ => done)
  have copies : Orderly S ceiling level (OperationFits ceiling level)
      (do
        graphOrDefault
        let _ ← word ["TO"]
        graphOrDefault
        return .manage management) :=
    .andThen graphOrDefault_orderly fun _ => .word fun _ => .andThen graphOrDefault_orderly fun _ => done
  refine .andThen accept_orderly fun _ => ?_
  cases management with
  | load =>
    exact .andThen resource_orderly fun _ => .ifAccept
      (.word fun _ => .andThen resource_orderly fun _ => done) done
  | clear => exact clears
  | drop => exact clears
  | create => exact .word fun _ => .andThen resource_orderly fun _ => done
  | add => exact copies
  | move => exact copies
  | copy => exact copies

/-- Each operation fits, whichever it is. -/
theorem operation_orderly (hd : DepthOrderly S ceiling level depth) :
    Orderly S ceiling level (OperationFits ceiling level) (operation depth) := by
  have inserts : Orderly S ceiling level (OperationFits ceiling level)
      (do
        let inserted ← template depth
        modify depth none (some inserted)) :=
    .bind (template_orderly hd) fun {inserted} fits low =>
      modify_orderly hd none (some inserted) (.zero low) fits low
  exact .accept?
    (fun {token} _ => by
      dsimp only
      cases management? token with
      | none => exact refuse_orderly _
      | some management => exact manage_orderly management)
    (.ifAccept
      (.ifAccept (.bind (template_orderly hd) fun fits => .pure fun _ => fits) inserts)
      (.ifAccept
        (.ifAccept (.bind (template_orderly hd) fun fits => .pure fun _ => fits)
          (.ifAccept (.bind (group_orderly hd) fun fits => .pure fun _ => fits) (deleteInsert_orderly hd)))
        (.ifAccept
          (.andThen resource_orderly fun _ => .ifAccept inserts (.word fun _ => deleteInsert_orderly hd))
          (refuse_orderly _))))

theorem operationTurn_orderly (hd : DepthOrderly S ceiling level depth) :
    Orderly S ceiling level (Turn.Given fun pair => OperationFits ceiling level pair.1) (operationTurn depth) :=
  .bind (operation_orderly hd) fun fits => .ifAccept
    (.andThen prologue_orderly fun _ => .bind peek_orderly fun {found} _ => by
      cases found with
      | none => exact .pure fun _ => fits
      | some => exact .pure fun _ => fits)
    (.pure fun _ => fits)

/-! ## All forms -/

/-- **The body of a query fits**, whichever form it has. -/
theorem body_orderly (hd : DepthOrderly S ceiling level depth) :
    Orderly S ceiling level (fun pair => BodyFits ceiling level pair.1) (body depth) :=
  .ifNext (.bind (selectBody_orderly hd) fun fits => .pure fun _ => fits)
    (.ifNext (.bind (askBody_orderly hd) fun fits => .pure fun _ => fits)
      (.ifNext (.bind (constructBody_orderly hd) fun fits => .pure fun _ => fits)
        (.ifNext (.bind (describeBody_orderly hd) fun fits => .pure fun _ => fits)
          (.ifNext
            (.bind (loop_orderly (operationTurn_orderly hd)) fun fit => .pure fun low =>
              .all (f := Operation.heightOfAll) rfl (fun _ _ => rfl) low (List.forall_mem_map.mpr fit))
            (refuse_orderly _)))))

/-- **Queries are orderly**, and fit. -/
theorem query_orderly (hd : DepthOrderly S ceiling level depth) :
    Orderly S ceiling level (fun query => Fits ceiling level query.height) (query depth) :=
  .andThen prologue_orderly fun _ => .bind (body_orderly hd) fun fits => .bind peek_orderly fun {found} _ => by
    cases found with
    | none => exact .pure fun _ => fits
    | some => exact refuse_orderly _

end QuerySignature.Reader
