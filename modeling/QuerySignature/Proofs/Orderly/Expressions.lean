import QuerySignature.Proofs.Orderly.Terms
import QuerySignature.Reading.Modifiers

/-!
# Proofs/Orderly/Expressions — expressions and modifiers

A bracket inside an expression is a level like any other, and so is the brace behind `EXISTS`.  An expression
fits if the groups it tests do.
-/

namespace QuerySignature

variable {S : Token → Prop} {ceiling level : Nat}

/-- Groups that fit one by one fit together. -/
theorem Fits.groups {list : List Group} (low : level ≤ ceiling) (h : ∀ group ∈ list, Fits ceiling level group.height) :
    Fits ceiling level (Group.heightOfAll list) :=
  .all rfl (fun _ _ => rfl) low h

/-- Pieces that fit one by one fit together. -/
theorem Scanned.Fits.concat {pieces : List Scanned} (h : ∀ piece ∈ pieces, Scanned.Fits ceiling level piece) :
    Scanned.Fits ceiling level (Scanned.concat pieces) :=
  List.forall_mem_flatMap.mpr h

/-- What is scanned fits, so the expression does. -/
theorem Scanned.Fits.expression {scanned : Scanned} (h : Scanned.Fits ceiling level scanned) (low : level ≤ ceiling) :
    QuerySignature.Fits ceiling level scanned.expression.height :=
  .groups low h

namespace Reader

variable {depth : Option Inside} {named : Bool}

/-- The height of an expression fits. -/
def ExpressionFits (ceiling level : Nat) (expression : Expression) : Prop :=
  Fits ceiling level expression.height

/-- The text and the variables of an expression have no height. -/
theorem ExpressionFits.sameGroups {expression : Expression} {text : Text} {vars : List Text}
    (h : ExpressionFits ceiling level expression) :
    ExpressionFits ceiling level ⟨text, vars, expression.patterns⟩ := by
  cases expression
  exact h

/-! ## Pieces -/

/-- The group of a test is one deeper than the test. -/
theorem existsTest_orderly (hd : DepthOrderly S ceiling level depth) :
    Orderly S ceiling level (Scanned.Fits ceiling level) (existsTest depth) := by
  have test : Orderly S ceiling level (fun group => Fits ceiling level group.height) (existsGroup depth) :=
    .ifAccept (.word fun _ => group_orderly hd) (.word fun _ => group_orderly hd)
  exact .bind (taking_orderly test) fun fits => .pure fun _ => List.forall_mem_singleton.mpr fits

theorem piece_orderly (hd : DepthOrderly S ceiling level depth) :
    Orderly S ceiling level (Scanned.Fits ceiling level) (piece depth) :=
  .ifNextTwo (existsTest_orderly hd)
    (.open? hd (by decide)
      (fun low inner => .bind inner.brackets fun fits => .andThen (shut_passes low) fun _ => .pure fun _ => fits)
      (.require fun _ => .pure fun _ => List.forall_mem_nil _))

/-- Brackets count like any other nesting. -/
theorem brackets_orderly (hd : DepthOrderly S ceiling level depth) :
    Orderly S ceiling level (Scanned.Fits ceiling level) (brackets depth) :=
  .bind (manyUntil_orderly (piece_orderly hd)) fun fit => .pure fun _ => .concat fit

theorem outerPiece_orderly (hd : DepthOrderly S ceiling level depth) :
    Orderly S ceiling level (Given (Scanned.Fits ceiling level)) (outerPiece depth named) :=
  .ifNext (.pure fun _ => trivial) (.ifNext (refuse_orderly _) (piece_orderly hd).found)

/-- **Expressions are orderly**, and fit. -/
theorem expression_orderly (hd : DepthOrderly S ceiling level depth) :
    Orderly S ceiling level (ExpressionFits ceiling level) (expression depth named) :=
  .bind (many_orderly (outerPiece_orderly hd)) fun fit => .pure (Scanned.Fits.concat fit).expression

theorem someExpression_orderly (hd : DepthOrderly S ceiling level depth) :
    Orderly S ceiling level (ExpressionFits ceiling level) (someExpression depth named) :=
  .bind (expression_orderly hd) fun fits => by
    split
    · exact refuse_orderly _
    · exact .pure fun _ => fits

/-! ## Calls and constraints -/

theorem startsCall_orderly : Orderly S ceiling level Anything startsCall := nextTwo_orderly

theorem functionCall_orderly (hd : DepthOrderly S ceiling level depth) :
    Orderly S ceiling level (ExpressionFits ceiling level) (functionCall depth) :=
  .require fun _ => .symbol fun _ => .bind (expression_orderly hd) fun fits => .symbol fun _ =>
    .pure fun _ => fits.sameGroups

theorem startsConstraint_orderly : Orderly S ceiling level Anything startsConstraint :=
  .andThen next_orderly fun _ => .andThen startsCall_orderly fun _ => .pure fun _ => trivial

theorem constraint_orderly (hd : DepthOrderly S ceiling level depth) :
    Orderly S ceiling level (ExpressionFits ceiling level) (constraint depth) :=
  .ifAccept (.bind (someExpression_orderly hd) fun fits => .symbol fun _ => .pure fun _ => fits)
    (.ifNext (.bind (existsTest_orderly hd) fun fits => .pure fits.expression)
      (.andThen startsCall_orderly fun
        | true => functionCall_orderly hd
        | false => refuse_orderly _))

theorem namedExpression_orderly (hd : DepthOrderly S ceiling level depth) :
    Orderly S ceiling level (fun pair => ExpressionFits ceiling level pair.1) (namedExpression depth) :=
  .bind (someExpression_orderly hd) fun fits => .word fun _ => .andThen variableName_orderly fun _ =>
    .symbol fun _ => .pure fun _ => fits

/-! ## Selections -/

theorem projection?_orderly (hd : DepthOrderly S ceiling level depth) :
    Orderly S ceiling level (Given fun column => Fits ceiling level column.height) (projection? depth) :=
  .accept? (fun _ => .pure .zero)
    (.ifAccept (.bind (namedExpression_orderly hd) fun fits => .pure fun _ => fits) (.pure fun _ => trivial))

theorem duplicates_orderly : Orderly S ceiling level Anything duplicates :=
  .ifAccept (.pure fun _ => trivial) (.ifAccept (.pure fun _ => trivial) (.pure fun _ => trivial))

theorem selection_orderly (hd : DepthOrderly S ceiling level depth) :
    Orderly S ceiling level (fun selection => Fits ceiling level selection.height) (selection depth) :=
  .word fun _ => .andThen duplicates_orderly fun _ => .ifAccept (.pure .zero)
    (.bind (many_orderly (within_orderly (projection?_orderly hd))) fun fit => by
      split
      · exact refuse_orderly _
      · exact .pure fun low => .all (f := Projection.heightOfAll) rfl (fun _ _ => rfl) low fit)

/-! ## Grouping and order -/

theorem groupCondition?_orderly (hd : DepthOrderly S ceiling level depth) :
    Orderly S ceiling level (Given (ExpressionFits ceiling level)) (groupCondition? depth) :=
  .accept? (fun _ => .pure .zero)
    (.ifAccept
      (.bind (expression_orderly hd) fun fits =>
        .ifAccept (.require fun _ => .symbol fun _ => .pure fun _ => fits.sameGroups)
          (.symbol fun _ => .pure fun _ => fits))
      (.andThen startsCall_orderly fun
        | true => (functionCall_orderly hd).found
        | false => .pure fun _ => trivial))

theorem orderKey?_orderly (hd : DepthOrderly S ceiling level depth) :
    Orderly S ceiling level (Given fun key => Fits ceiling level key.height) (orderKey? depth) :=
  .accept? (fun _ => .symbol fun _ => .bind (expression_orderly hd) fun fits => .symbol fun _ => .pure fun _ => fits)
    (.accept? (fun _ => .pure .zero)
      (.andThen startsConstraint_orderly fun
        | true => .bind (constraint_orderly hd) fun fits => .pure fun _ => fits
        | false => .pure fun _ => trivial))

theorem constraint?_orderly (hd : DepthOrderly S ceiling level depth) :
    Orderly S ceiling level (Given (ExpressionFits ceiling level)) (constraint? depth) :=
  .andThen startsConstraint_orderly fun
    | true => (constraint_orderly hd).found
    | false => .pure fun _ => trivial

theorem keywordBy_orderly (keyword : String) : Orderly S ceiling level Anything (keywordBy keyword) :=
  .ifAccept (.word fun _ => .pure fun _ => trivial) (.pure fun _ => trivial)

/-- A clause is as deep as its items. -/
theorem clause_orderly {α : Type} {P : α → Prop} {keyword : Reader Bool} {missing : Expected}
    {item : Reader (Option α)} (hk : Orderly S ceiling level Anything keyword)
    (h : Orderly S ceiling level (Given P) item) :
    Orderly S ceiling level (fun list => ∀ a ∈ list, P a) (clause keyword missing item) :=
  .andThen hk fun
    | true => .bind (many_orderly h) fun fit => by
      split
      · exact refuse_orderly _
      · exact .pure fun _ => fit
    | false => .pure fun _ => List.forall_mem_nil _

/-! ## Slices -/

/-- A numeral without a value stops the run behind it. -/
theorem slice?_stopped {keyword : String} {word number : Token} {rest : List Token}
    (is : word.spells [keyword] = true) (digits : isDigits number = true)
    (none_ : Text.natural? number.text = none) :
    (slice? keyword).read (word :: number :: rest) = .stopped (.unreadable (.numeral number.text)) rest ∧
      (slice? keyword).shifts (word :: number :: rest) = [] := by
  have accepted : (accept? (·.spells [keyword])).read (word :: number :: rest) = .done (some word) (number :: rest) :=
    accept?_some.mpr ⟨rfl, is⟩
  have required : (require .integer isDigits).read (number :: rest) = .done number rest :=
    require_done.mpr ⟨rfl, digits⟩
  constructor
  · rw [slice?, bind_read, accepted]
    dsimp only
    rw [bind_read, required]
    dsimp only
    rw [none_]
    rfl
  · rw [slice?, bind_shifts_done accepted, bind_shifts_done required, require_shifts, none_]
    rfl

/-- **A slice is orderly.**  A numeral without a value stands behind its keyword. -/
theorem slice?_orderly {keyword : String} (slices : keyword ∈ ["LIMIT", "OFFSET"]) :
    Orderly S ceiling level Anything (slice? keyword) := by
  intro low tokens input
  have accepted : PassesAt S ceiling level level _ (accept? (·.spells [keyword])) tokens :=
    accept?_orderly low input
  cases ha : (accept? (·.spells [keyword])).read tokens with
  | stopped fault rest => exact .early ha accepted
  | done found rest =>
    cases found with
    | none => exact .behind ha accepted.stays (Int.add_zero _) (Passes.pure (fun _ => trivial) low (forall_rest input ha))
    | some word =>
      obtain ⟨rfl, is⟩ := accept?_some.mp ha
      have others := (List.forall_mem_cons.mp input).2
      have required : PassesAt S ceiling level level _ (require .integer isDigits) rest := require_orderly low others
      cases hr : (require .integer isDigits).read rest with
      | stopped fault rest' => exact .behind ha accepted.stays (Int.add_zero _) (.early hr required)
      | done number rest' =>
        obtain ⟨rfl, digits⟩ := require_done.mp hr
        cases hn : Text.natural? number.text with
        | some value =>
          have level_ : (level : Int) + Shift.gain ((require .integer isDigits).shifts (number :: rest')) = level := by
            rw [require_shifts]
            exact Int.add_zero _
          refine .behind ha accepted.stays (Int.add_zero _) (.behind hr required.stays level_ ?_)
          rw [hn]
          exact Passes.pure (fun _ => trivial) low (List.forall_mem_cons.mp others).2
        | none =>
          obtain ⟨read, shifts⟩ := @slice?_stopped keyword word number rest' is digits hn
          have due : (Fault.unreadable (.numeral number.text)).Due S ((level : Int) = ceiling) [word, number] rest' :=
            .numeral (List.suffix_refl _) (Token.spells_mono is (List.cons_subset.mpr ⟨slices, List.nil_subset _⟩))
              digits hn
          exact .of_stopped read shifts low due

theorem slices_orderly : Orderly S ceiling level Anything slices :=
  .andThen (slice?_orderly (by decide)) fun
    | some _ => .andThen (slice?_orderly (by decide)) fun _ => .pure fun _ => trivial
    | none => .andThen (slice?_orderly (by decide)) fun
      | some _ => .andThen (slice?_orderly (by decide)) fun _ => .pure fun _ => trivial
      | none => .pure fun _ => trivial

/-- The modifiers fit, clause by clause. -/
theorem modifiers_orderly (hd : DepthOrderly S ceiling level depth) :
    Orderly S ceiling level (fun modifiers => Fits ceiling level modifiers.height) (modifiers depth) :=
  .bind (clause_orderly (keywordBy_orderly _) (within_orderly (groupCondition?_orderly hd))) fun groupBy =>
    .bind (clause_orderly accept_orderly (within_orderly (constraint?_orderly hd))) fun having =>
      .bind (clause_orderly (keywordBy_orderly _) (within_orderly (orderKey?_orderly hd))) fun orderBy =>
        .andThen slices_orderly fun _ => .pure fun low =>
          .max (.all (f := Expression.heightOfAll) rfl (fun _ _ => rfl) low groupBy)
            (.max (.all (f := Expression.heightOfAll) rfl (fun _ _ => rfl) low having)
              (.all (f := OrderKey.heightOfAll) rfl (fun _ _ => rfl) low orderBy))

end Reader

end QuerySignature
