import QuerySignature.Proofs.Paired.Pieces

/-!
# Proofs/Paired/Readers — every reader inside a group closes what it opens

Rule by rule, the tokens that are taken close the brackets they open, whatever is due before them; only an expression
starts behind a round bracket, so that `EXISTS` is not in front of it.  By induction on the brackets that may still be open
this holds of what can be read inside a bracket (`inside_rises`).
-/

namespace QuerySignature

open Token (Nested Leads)

/-! ## Inline data -/

/-- A cell has no bracket. -/
theorem IsCell.nested {tokens : List Token} {cell : Cell} (h : IsCell tokens cell) : Nested tokens := by
  cases h with
  | undef spells => exact Token.nested_singleton (Token.isBracket_of_spells spells)
  | resource names =>
    refine Token.nested_singleton (Token.isBracket_of_kind ?_)
    rcases Reader.kind_of_isResource names with kind | kind <;> rw [kind] <;> decide
  | literal is => exact Token.nested_singleton (Token.isBracket_of_kind (by rw [is]; decide))
  | signed isSign isNumber =>
    refine (Token.nested_singleton (Token.isBracket_of_symbol isSign (by decide))).append ?_
    exact Token.nested_singleton (Token.isBracket_of_kind (by rw [Reader.kind_of_isNumeric isNumber]; decide))

/-- Items close what they open, one after the other. -/
theorem IsSequence.nested {α : Type} {item : List Token → α → Prop} {tokens : List Token} {list : List α}
    (h : IsSequence item tokens list) (each : ∀ {taken a}, item taken a → Nested taken) : Nested tokens := by
  induction h with
  | nil => exact Token.nested_nil
  | cons first _ ih => exact (each first).append ih

/-- A row is one round bracket around its cells. -/
theorem IsRow.nested {width : Nat} {tokens : List Token} {row : List Cell} (h : IsRow width tokens row) :
    Nested tokens := by
  cases h with
  | cells opens cells closes _ =>
    exact .pair (Token.nest?_round opens []) (cells.nested IsCell.nested) (Token.nest?_unround closes [])

/-- A row of one cell has no bracket. -/
theorem IsShortRow.nested {tokens : List Token} {row : List Cell} (h : IsShortRow tokens row) : Nested tokens := by
  cases h with
  | cell is => exact is.nested

/-- Variables are no brackets. -/
theorem nested_vars {vars : List Token} (h : ∀ var ∈ vars, var.kind = .var) : Nested vars := by
  induction vars with
  | nil => exact Token.nested_nil
  | cons var vars ih =>
    obtain ⟨first, others⟩ := List.forall_mem_cons.mp h
    exact (Token.nested_singleton (Token.isBracket_of_kind (by rw [first]; decide))).append (ih others)

/-- **A block closes the brackets it opens.** -/
theorem IsBlock.nested {tokens : List Token} {block : Values} (h : IsBlock tokens block) : Nested tokens := by
  have braced {opening closing : Token} {rows : List Token} (opens : opening.isSymbol ["\x7b"] = true)
      (nested : Nested rows) (closes : closing.isSymbol ["\x7d"] = true) :
      Nested (opening :: (rows ++ [closing])) :=
    .pair (Token.nest?_brace opens []) nested (Token.nest?_unbrace closes [])
  cases h with
  | short spells isVar opens rows closes =>
    refine (Token.nested_singleton (Token.isBracket_of_spells spells)).append ?_
    refine (Token.nested_singleton (Token.isBracket_of_kind (by rw [isVar]; decide))).append ?_
    exact braced opens (rows.nested IsShortRow.nested) closes
  | long spells isLeft areVars isRight opens rows closes =>
    refine (Token.nested_singleton (Token.isBracket_of_spells spells)).append ?_
    have header := Nested.pair (Token.nest?_round isLeft []) (nested_vars areVars) (Token.nest?_unround isRight [])
    have whole := header.append (braced opens (rows.nested IsRow.nested) closes)
    rwa [List.cons_append, List.append_assoc] at whole

namespace Reader

variable {due due' between : List Text} {fresh : Bool} {most brackets : Nat} {depth : Option Inside} {named : Bool}
  {α β : Type}

/-- A block closes the brackets that its tokens open. -/
theorem values_rises : Rises false due due values := by
  intro tokens rest block read
  obtain ⟨taken, whole, writes⟩ := valuesContent_writes read
  exact ⟨taken, whole, .of_nested writes.nested⟩

/-- A block behind a query may be missing. -/
theorem values?_rises : Rises false due due values? :=
  .ifNext (.map values_rises) .pure

/-! ## Terms -/

/-- A resource is no bracket. -/
theorem resource_rises : Rises false due due resource :=
  .require .isResource fun _ => .pure

/-- A variable is no bracket. -/
theorem variableName_rises : Rises false due due variableName :=
  .require (.isKind (by decide)) fun _ => .pure

/-- A variable or a resource is no bracket. -/
theorem target_rises : Rises false due due target :=
  .accept? (.isKind (by decide)) (fun _ => .pure) (.map resource_rises)

/-- Neither a sign nor a number is a bracket. -/
theorem signedNumber?_rises : Rises false due due signedNumber? :=
  .acceptTwo? (.isSymbol (by decide)) .isNumeric fun
    | some _ => .map .valued
    | none => .pure

/-- Behind an atom nothing more is taken. -/
theorem atom_rises (token : Token) : Rises false due due (atom token) := by
  unfold atom
  split
  · exact .pure
  · split <;> exact .pure
  · exact .map .valued
  · exact .pure

/-- A term is an atom or a signed number. -/
theorem term_rises : Rises false due due term :=
  .accept? .isAtom atom_rises
    (.bind signedNumber?_rises fun
      | some _ => .pure
      | none => .refuse)

/-! ## Brackets -/

/-- A bracket that is opened, or not. -/
theorem Rises.open? {symbols : List String} {N : Option (Token × Inside) → Reader β} (hd : DepthRises most depth)
    (moves : Moves due between (·.isSymbol symbols))
    (some : ∀ token {inner}, InsideRises most inner → Rises false between due' (N (some (token, inner))))
    (none : Rises fresh due due' (N none)) : Rises fresh due due' (Reader.open? depth symbols >>= N) := by
  intro tokens rest b read
  obtain ⟨found, _, opened, further⟩ := bind_done.mp read
  rcases open?_done opened with ⟨rfl, rfl, -⟩ | ⟨opening, inner, rfl, rfl, rfl, is⟩
  · exact none further
  · obtain ⟨taken, rfl, leads⟩ := some opening hd further
    exact ⟨opening :: taken, rfl, leads.cons (moves is) nofun⟩

/-- A group closes its braces, for what is read inside leads to the closing one. -/
theorem group_rises (hd : DepthRises most depth) : Rises false due due (group depth) := by
  intro tokens rest pattern read
  obtain ⟨opening, inner, closing, rfl, opens, leads, closes⟩ := group_done hd read
  refine ⟨opening :: (inner ++ [closing]), ?_, .braced opens (leads _) closes⟩
  rw [List.cons_append, List.append_assoc]
  rfl

/-! ## Paths -/

/-- A step is no bracket. -/
theorem moves_isStep : Moves due due isStep := by
  intro token is
  rcases (Bool.or_eq_true _ _).mp is with resource | a
  · exact Moves.isResource resource
  · exact Moves.spells _ a

/-- A symbol that may be missing does what the symbol does. -/
theorem optionalSymbol_rises {symbols : List String} (moves : Moves due due (·.isSymbol symbols)) :
    Rises false due due (optionalSymbol symbols) :=
  .accept? moves (fun _ => .pure) .pure

/-- Marks that are no brackets may stand between the items. -/
theorem separated_rises {mark : String} {item : Reader (List Token)} (moves : Moves due due (·.isSymbol [mark]))
    (h : Rises false due due item) : Rises false due due (separated mark item) :=
  .bind h fun _ => .bind (.many (.accept? moves (fun _ => .map h) .pure)) fun _ => .pure

/-- Neither a caret nor a step is a bracket. -/
theorem inverseStep_rises : Rises false due due inverseStep :=
  .bind (optionalSymbol_rises (.isSymbol (by decide))) fun _ => .require moves_isStep fun _ => .pure

/-- A negated set closes its round bracket. -/
theorem negatedSet_rises (hd : DepthRises most depth) : Rises false due due (negatedSet depth) :=
  .open? hd .round
    (fun _ _ _ => .accept? .unround (fun _ => .bind .shift fun _ => .pure)
      (.bind (separated_rises (.isSymbol (by decide)) inverseStep_rises) fun _ => .close .unround fun _ => .pure))
    inverseStep_rises

/-- A path in brackets closes its round bracket. -/
theorem pathPrimary_rises (hd : DepthRises most depth) : Rises false due due (pathPrimary depth) :=
  .open? hd .round
    (fun _ _ inner => .bind (inner.path _) fun _ => .close .unround fun _ => .pure)
    (.accept? (.isSymbol (by decide)) (fun _ => .map (negatedSet_rises hd))
      (.require moves_isStep fun _ => .pure))

/-- The caret in front and the modifier behind are no brackets. -/
theorem pathElement_rises (hd : DepthRises most depth) : Rises false due due (pathElement depth) :=
  .bind (optionalSymbol_rises (.isSymbol (by decide))) fun _ => .bind (pathPrimary_rises hd) fun _ =>
    .bind (optionalSymbol_rises (.isSymbol (by decide))) fun _ => .pure

/-- A path closes the brackets of its elements. -/
theorem path_rises (hd : DepthRises most depth) : Rises false due due (path depth) :=
  separated_rises (.isSymbol (by decide)) (separated_rises (.isSymbol (by decide)) (pathElement_rises hd))

/-- A verb closes the brackets of its path. -/
theorem verb_rises (hd : DepthRises most depth) : Rises false due due (verb depth) :=
  .accept? (.isKind (by decide)) (fun _ => .pure)
    (.ifNext
      (.bind (path_rises hd) fun path => by rcases path with _ | ⟨first, _ | ⟨second, others⟩⟩ <;> exact .pure)
      .refuse)

/-! ## Triples -/

/-- **A node closes its bracket**, a square one or a round one. -/
theorem node_rises (hd : DepthRises most depth) : Rises false due due (node depth) :=
  .acceptTwo? (.isSymbol (by decide)) (.isSymbol (by decide)) fun
    | some _ => .pure
    | none => .open? hd (.isSymbol (by decide))
      (fun _ _ inner => .bind (inner.properties _) fun _ => .close (.isSymbol (by decide)) fun _ => .pure)
      (.open? hd .round
        (fun _ _ inner => .bind (.manyWhile (inner.node _)) fun _ => .close .unround fun _ => .pure)
        term_rises)

/-- Looking ahead takes nothing. -/
theorem startsNode_rises : Rises false due due startsNode :=
  .ifNext .pure .nextTwo

/-- Commas stand between objects. -/
theorem objects_rises (hd : DepthRises most depth) : Rises false due due (objects depth) :=
  .bind (node_rises hd) fun _ =>
    .bind (.many (.ifAccept (.isSymbol (by decide)) (.map (node_rises hd)) .pure)) fun _ => .pure

/-- A turn of a property list is a semicolon, or a verb with its objects. -/
theorem property_rises (hd : DepthRises most depth) : Rises false due due (property depth) :=
  .bind (verb_rises hd) fun _ => .bind (objects_rises hd) fun _ =>
    .ifAccept (.isSymbol (by decide))
      (.bind (.many (.optional (.isSymbol (by decide)))) fun _ => .ifNext .pure .pure)
      .pure

/-- A property list closes what each of its turns opens. -/
theorem properties_rises (hd : DepthRises most depth) : Rises false due due (properties depth) :=
  .bind (.loop (property_rises hd)) fun _ => .pure

/-- Triples close the brackets of their subject and of their property list. -/
theorem triples_rises (hd : DepthRises most depth) : Rises false due due (triples depth) :=
  .bind .next fun _ => .bind .nextTwo fun _ => .bind (node_rises hd) fun _ => .bind .next fun _ => by
    split
    · exact .pure
    · exact .map (properties_rises hd)

/-! ## Clauses -/

/-- A name of a function is no bracket. -/
theorem moves_isCallable : Moves due due isCallable :=
  .kind fun token is => by
    rcases (Bool.or_eq_true _ _).mp is with keyword | resource
    · rw [of_decide_eq_true ((Bool.and_eq_true _ _).mp keyword).1]
      decide
    · rcases kind_of_isResource resource with kind | kind <;> rw [kind] <;> decide

/-- A number is no bracket. -/
theorem moves_isDigits : Moves due due isDigits :=
  .kind fun _ is => by
    rw [of_decide_eq_true ((Bool.and_eq_true _ _).mp is).1]
    decide

/-- Looking ahead takes nothing. -/
theorem startsConstraint_rises : Rises false due due startsConstraint :=
  .bind .next fun _ => .bind .nextTwo fun _ => .pure

/-- The word behind `SELECT` is no bracket. -/
theorem duplicates_rises : Rises false due due duplicates :=
  .ifAccept (.spells _) .pure (.ifAccept (.spells _) .pure .pure)

/-- Two keywords are no brackets. -/
theorem keywordBy_rises (keyword : String) : Rises false due due (keywordBy keyword) :=
  .ifAccept (.spells _) (.word fun _ => .pure) .pure

/-- A clause is its keyword and items, one after the other. -/
theorem clause_rises {keyword : Reader Bool} {missing : Expected} {item : Reader (Option α)}
    (hk : Rises false due due keyword) (h : Rises false due due item) :
    Rises false due due (clause keyword missing item) :=
  .either hk
    (.bind (.many h) fun _ => by
      split
      · exact .refuse
      · exact .pure)
    .pure

/-- A slice is a keyword and a number. -/
theorem slice?_rises (keyword : String) : Rises false due due (slice? keyword) :=
  .accept? (.spells _)
    (fun _ => .require moves_isDigits fun _ => by
      split
      · exact .pure
      · exact .stop)
    .pure

/-- The slices come in either order. -/
theorem slices_rises : Rises false due due slices :=
  .bind (slice?_rises _) fun
    | some _ => .map (slice?_rises _)
    | none => .bind (slice?_rises _) fun
      | some _ => .map (slice?_rises _)
      | none => .pure

/-! ## Expressions -/

section Expressions

variable (hd : DepthRises brackets (inside brackets))
include hd

/-- A test closes the braces of its group; the keywords in front are no brackets. -/
theorem existsTest_rises : Rises false due due (existsTest (inside brackets)) :=
  .map (.taking (.bind (.accept (.spells _)) fun _ => .word fun _ => group_rises hd))

/-- **An expression starts behind a round bracket** and leads to the one that closes it. -/
theorem expression_rises : Rises true ([')'] :: due) ([')'] :: due) (expression (inside brackets) named) := by
  intro tokens rest found read
  obtain ⟨scanned, -, is⟩ := expression_isRead hd read
  refine ⟨scanned.tokens, is.whole, is.balanced.climb _, fun before tidy => is.nests (fun tested => ?_) tidy⟩
  rw [before rfl] at tested
  cases tested

/-- An expression that must not be empty is read like any other. -/
theorem someExpression_rises : Rises true ([')'] :: due) ([')'] :: due) (someExpression (inside brackets) named) :=
  .bind (expression_rises hd) fun _ => by
    split
    · exact .refuse
    · exact .pure

/-- A call closes the bracket of its arguments. -/
theorem functionCall_rises : Rises false due due (functionCall (inside brackets)) :=
  .require moves_isCallable fun _ => .round fun _ => .bind (expression_rises hd) fun _ =>
    .symbol .unround fun _ => .pure

/-- A constraint is a test, an expression in brackets or a call. -/
theorem constraint_rises : Rises false due due (constraint (inside brackets)) :=
  .ifRound (.bind (someExpression_rises hd) fun _ => .symbol .unround fun _ => .pure)
    (.ifNext (.map (existsTest_rises hd))
      (.either .nextTwo (functionCall_rises hd) .refuse))

/-- The name of an expression, with the bracket that closes both. -/
theorem namedExpression_rises : Rises true ([')'] :: due) due (namedExpression (inside brackets)) :=
  .bind (someExpression_rises hd) fun _ => .word fun _ => .bind variableName_rises fun _ =>
    .symbol .unround fun _ => .pure

/-! ## Modifiers -/

/-- A projection is a variable, or an expression with a name in brackets. -/
theorem projection?_rises : Rises false due due (projection? (inside brackets)) :=
  .accept? (.isKind (by decide)) (fun _ => .pure)
    (.ifRound (.bind (namedExpression_rises hd) fun _ => .pure) .pure)

/-- A selection is a star or some projections. -/
theorem selection_rises : Rises false due due (selection (inside brackets)) :=
  .word fun _ => .bind duplicates_rises fun _ => .ifAccept (.isSymbol (by decide)) .pure
    (.bind (.many (.within (projection?_rises hd))) fun _ => by
      split
      · exact .refuse
      · exact .pure)

/-- A condition of a grouping is a variable, a call, or an expression in brackets. -/
theorem groupCondition?_rises : Rises false due due (groupCondition? (inside brackets)) :=
  .accept? (.isKind (by decide)) (fun _ => .pure)
    (.ifRound
      (.bind (expression_rises hd) fun _ =>
        .ifAccept (.spells _)
          (.require (.isKind (by decide)) fun _ => .symbol .unround fun _ => .pure)
          (.symbol .unround fun _ => .pure))
      (.either .nextTwo (.map (functionCall_rises hd)) .pure))

/-- A key is a direction with its expression, a variable or a constraint. -/
theorem orderKey?_rises : Rises false due due (orderKey? (inside brackets)) :=
  .accept? (.spells _)
    (fun _ => .round fun _ => .bind (expression_rises hd) fun _ => .symbol .unround fun _ => .pure)
    (.accept? (.isKind (by decide)) (fun _ => .pure)
      (.either startsConstraint_rises (.bind (constraint_rises hd) fun _ => .pure) .pure))

/-- A constraint that may be missing. -/
theorem constraint?_rises : Rises false due due (constraint? (inside brackets)) :=
  .either startsConstraint_rises (.map (constraint_rises hd)) .pure

/-- The clauses of a query close what each of them opens. -/
theorem modifiers_rises : Rises false due due (modifiers (inside brackets)) :=
  .bind (clause_rises (keywordBy_rises _) (.within (groupCondition?_rises hd))) fun _ =>
    .bind (clause_rises (.accept (.spells _)) (.within (constraint?_rises hd))) fun _ =>
      .bind (clause_rises (keywordBy_rises _) (.within (orderKey?_rises hd))) fun _ =>
        .bind slices_rises fun _ => .pure

/-! ## Groups -/

/-- The keyword in front of a group may be missing. -/
theorem whereGroup_rises : Rises false due due (whereGroup (inside brackets)) :=
  .bind (.accept (.spells _)) fun _ => group_rises hd

/-- A sub-select ends in front of the brace that closes its group. -/
theorem subSelect_rises : Rises false due due (subSelect (inside brackets)) :=
  .bind (selection_rises hd) fun _ => .bind (whereGroup_rises hd) fun _ => .bind (modifiers_rises hd) fun _ =>
    .map values?_rises

/-- Groups with `UNION` between them close their braces. -/
theorem alternatives_rises : Rises false due due (alternatives (inside brackets)) :=
  .bind (group_rises hd) fun _ =>
    .bind (.many (.ifAccept (.spells _) (.map (group_rises hd)) .pure)) fun others => by
      cases others <;> exact .pure

/-- **A pattern closes the brackets of its groups and expressions**, keyword by keyword. -/
theorem pattern_rises : Rises false due due (pattern (inside brackets)) :=
  .ifNext (alternatives_rises hd)
    (.ifAccept (.spells _) (.map (group_rises hd))
      (.ifAccept (.spells _) (.map (group_rises hd))
        (.ifAccept (.spells _) (.bind target_rises fun _ => .map (group_rises hd))
          (.ifAccept (.spells _)
            (.bind (.accept (.spells _)) fun _ => .bind target_rises fun _ => .map (group_rises hd))
            (.ifAccept (.spells _) (.map (constraint_rises hd))
              (.ifAccept (.spells _)
                (.round fun _ => .bind (namedExpression_rises hd) fun _ => .pure)
                (.map values_rises)))))))

/-- Elements follow each other, with or without a point. -/
theorem elements_rises : Rises false due due (elements (inside brackets)) :=
  .ifNext .pure
    (.ifNext
      (.bind (pattern_rises hd) fun _ => .bind (.accept (.isSymbol (by decide))) fun _ => .pure)
      (.either startsNode_rises
        (.bind (triples_rises hd) fun _ => .ifAccept (.isSymbol (by decide)) .pure (.ifNext .pure .pure))
        (.bind .peek fun _ => .refuse)))

/-- A group holds a sub-select or elements. -/
theorem content_rises : Rises false due due (content (inside brackets)) :=
  .ifNext (.map (subSelect_rises hd)) (.bind (.loop (elements_rises hd)) fun _ => .pure)

end Expressions

/-- **What can be read inside a bracket closes what it opens**, however many brackets may be open in it. -/
theorem inside_rises (brackets : Nat) : DepthRises brackets (inside brackets) := by
  induction brackets with
  | zero => trivial
  | succ brackets ih =>
    refine ⟨fun _ => path_rises ih, fun _ => node_rises ih, fun _ => properties_rises ih, fun read => ?_,
      fun _ => content_rises ih⟩
    exact (brackets_isRead ih read).mono (Nat.le_succ brackets)

end Reader

end QuerySignature
