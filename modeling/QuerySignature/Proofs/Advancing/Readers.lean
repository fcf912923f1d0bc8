import QuerySignature.Proofs.Advancing.Rules
import QuerySignature.Proofs.Outcome.Run
import QuerySignature.Proofs.Paired.Pieces

/-!
# Proofs/Advancing/Readers — every loop of the grammar advances

The rules of the grammar are put together in the order in which they call each other; what can be read inside a
bracket follows by induction on the brackets that may still be open (`inside`), and with it whole queries (`query`).
-/

namespace QuerySignature.Reader

/-- **What can be read inside one more bracket advances.** -/
structure InsideAdvancing (inner : Inside) : Prop where
  path : Advancing inner.path
  node : Advancing inner.node
  properties : Advancing inner.properties
  brackets : Advancing inner.brackets
  content : Advancing inner.content
  progress : Progress (fun _ => True) inner.node

/-- Wherever a bracket may open, what can be read inside it advances. -/
def DepthAdvancing (depth : Option Inside) : Prop :=
  ∀ inner, depth = some inner → InsideAdvancing inner

namespace Advancing

variable {α β : Type} {depth : Option Inside} {R : Reader α}

/-- What is made of a value takes nothing more. -/
theorem map {f : α → β} (h : Advancing R) : Advancing (do return f (← R)) := .andThen h fun _ => .pure _

/-- A choice by a token that is accepted, or not. -/
theorem ifAccept {p : Token → Bool} {M : Bool → Reader β} (yes : Advancing (M true)) (no : Advancing (M false)) :
    Advancing (Reader.accept p >>= M) :=
  either accept yes no

/-- A choice by the next token. -/
theorem ifNext {p : Token → Bool} {M : Bool → Reader β} (yes : Advancing (M true)) (no : Advancing (M false)) :
    Advancing (Reader.next p >>= M) :=
  either next yes no

/-- A token that is accepted, or else. -/
theorem orElse {p : Token → Bool} {N : Option Token → Reader β} (some : ∀ token, Advancing (N (some token)))
    (none : Advancing (N none)) : Advancing (Reader.accept? p >>= N) :=
  option (.accept? p) some none

/-! ## Brackets -/

section Brackets

variable (hd : DepthAdvancing depth)
include hd

/-- A bracket is entered where one more may be open. -/
theorem enter {bracket : Token} {N : Inside → Reader β}
    (inside : ∀ inner, InsideAdvancing inner → Advancing (N inner)) : Advancing (Reader.enter depth bracket >>= N) := by
  have entered : Advancing (Reader.enter depth bracket) := by
    cases depth with
    | none => exact .stop _
    | some inner => exact .andThen (.shift _) fun _ => .pure _
  exact .bind entered fun _ inner _ read => inside inner (hd inner (enter_done read).1)

/-- **A bracket that is opened, or not.** -/
theorem open? {brackets : List String} {N : Option (Token × Inside) → Reader β}
    (some : ∀ opening inner, InsideAdvancing inner → Advancing (N (.some (opening, inner))))
    (none : Advancing (N .none)) : Advancing (Reader.open? depth brackets >>= N) := by
  have opened : Advancing (Reader.open? depth brackets) := by
    refine .andThen peek fun found => ?_
    cases found.filter (·.isSymbol brackets) with
    | none => exact .pure _
    | some bracket => exact enter hd fun inner _ => map (.accept? _)
  refine .bind opened fun _ found _ read => ?_
  obtain ⟨rfl, -⟩ | ⟨opening, inner, rfl, deeper, -⟩ := open?_done read
  · exact none
  · exact some opening inner (hd inner deeper)

omit hd in
/-- A bracket that is shut takes its closing token. -/
theorem shut {expected : Expected} {p : Token → Bool} : Advancing (Reader.shut expected p) :=
  .andThen require fun _ => .andThen (.shift _) fun _ => .pure _

/-- **A group advances**: its brace is taken, and its content is read one level deeper. -/
theorem group : Advancing (Reader.group depth) :=
  .andThen require fun _ => enter hd fun _ inner => .andThen inner.content fun _ => .andThen shut fun _ => .pure _

end Brackets

/-! ## Terms -/

theorem resource : Advancing Reader.resource := map require

theorem iri : Advancing Reader.iri := map require

theorem variableName : Advancing Reader.variableName := map require

theorem target : Advancing Reader.target := orElse (fun _ => .pure _) (map resource)

/-- Two tokens or none are taken. -/
theorem signedNumber? : Advancing Reader.signedNumber? :=
  option (.acceptTwo? _ _) (fun _ => valued.found) (.pure _)

/-- Behind the token of an atom nothing more is taken. -/
theorem atom (token : Token) : Advancing (Reader.atom token) := by
  unfold Reader.atom
  split
  · exact .pure _
  · split <;> exact .pure _
  · exact map valued
  · exact .pure _

/-- A term is one token or two, and without one the run stops. -/
theorem term : Advancing Reader.term :=
  orElse atom (option signedNumber? (fun _ => .pure _) refuse)

/-- A cell is one token or two, and without one the run stops. -/
theorem cell : Advancing Reader.cell :=
  orElse (fun _ => .pure _) <| orElse (fun _ => .pure _) <| orElse (fun _ => map valued) <|
    option signedNumber? (fun _ => .pure _) refuse

/-! ## Paths -/

theorem optionalSymbol (symbols : List String) : Advancing (Reader.optionalSymbol symbols) := map (.accept? _)

/-- Items with a mark between them. -/
theorem separated {mark : String} {item : Reader (List Token)} (h : Advancing item) :
    Advancing (Reader.separated mark item) :=
  .andThen h fun _ => map (many (orElse (fun _ => map h) (.pure _)) (.orElse (.pure nofun)))

theorem inverseStep : Advancing Reader.inverseStep := .andThen (optionalSymbol _) fun _ => map require

section Depth

variable (hd : DepthAdvancing depth)
include hd

/-- A negated set is a loop over the steps between its marks, in a bracket. -/
theorem negatedSet : Advancing (Reader.negatedSet depth) :=
  open? hd
    (fun _ _ _ => orElse (fun _ => .andThen (.shift _) fun _ => .pure _)
      (.andThen (separated inverseStep) fun _ => map shut))
    inverseStep

theorem pathPrimary : Advancing (Reader.pathPrimary depth) :=
  open? hd (fun _ _ inner => .andThen inner.path fun _ => map shut)
    (orElse (fun _ => map (negatedSet hd)) (map require))

/-- The marks around the primary of an element are taken or not. -/
theorem pathElement : Advancing (Reader.pathElement depth) :=
  .andThen (optionalSymbol _) fun _ => .andThen (pathPrimary hd) fun _ => map (optionalSymbol _)

theorem pathSequence : Advancing (Reader.pathSequence depth) := separated (pathElement hd)

/-- A path is a loop in a loop, over the marks of its alternatives and of its sequences. -/
theorem path : Advancing (Reader.path depth) := separated (pathSequence hd)

theorem verb : Advancing (Reader.verb depth) :=
  orElse (fun _ => .pure _) (ifNext (.andThen (path hd) fun tokens => by split <;> exact .pure _) refuse)

/-! ## Nodes and triples -/

/-- A node is a term, or a loop over what stands in its brackets. -/
theorem node : Advancing (Reader.node depth) :=
  option (.acceptTwo? _ _) (fun _ => .pure _) <|
    open? hd (fun _ _ inner => .andThen inner.properties fun _ => .andThen shut fun _ => .pure _) <|
    open? hd (fun _ _ inner => .andThen (manyWhile inner.node inner.progress) fun _ => .andThen shut fun _ => .pure _)
      term

omit hd in
/-- Looking ahead takes nothing. -/
theorem startsNode : Advancing Reader.startsNode := ifNext (.pure _) nextTwo

/-- Each turn behind the first object takes a comma. -/
theorem objects : Advancing (Reader.objects depth) :=
  .andThen (node hd) fun _ => map (many (ifAccept (node hd).found (.pure _)) (.orElse' (.pure nofun)))

/-- A turn takes a semicolon or a verb. -/
theorem property : Advancing (Reader.property depth) :=
  .andThen (verb hd) fun _ => .andThen (objects hd) fun _ =>
    ifAccept (.andThen (many (.accept? _) .accept?) fun _ => ifNext (.pure _) (.pure _)) (.pure _)

/-- A property list is a loop of turns, each of which takes a token. -/
theorem properties : Advancing (Reader.properties depth) := map (.loop (property hd) .property)

/-- A subject stands in front of its property list. -/
theorem triples : Advancing (Reader.triples depth) :=
  .andThen next fun _ => .andThen nextTwo fun _ => .andThen (node hd) fun _ => .andThen next fun _ => by
    split
    · exact .pure _
    · exact map (properties hd)

/-! ## Expressions -/

theorem existsGroup : Advancing (Reader.existsGroup depth) :=
  .andThen accept fun _ => .andThen require fun _ => group hd

theorem existsTest : Advancing (Reader.existsTest depth) := map (.taking (existsGroup hd))

/-- A piece takes a token, or the tokens of a test or of a bracket. -/
theorem piece : Advancing (Reader.piece depth) :=
  either nextTwo (existsTest hd) <|
    open? hd (fun _ _ inner => .andThen inner.brackets fun _ => map shut) (map require)

/-- A bracket in an expression is a loop over its pieces, one level deeper. -/
theorem brackets : Advancing (Reader.brackets depth) := map (manyUntil (piece hd) .piece)

theorem outerPiece (named : Bool) : Advancing (Reader.outerPiece depth named) :=
  ifNext (.pure _) (ifNext refuse (piece hd).found)

/-- **An expression is a loop over its pieces**, up to the bracket that closes it. -/
theorem expression (named : Bool) : Advancing (Reader.expression depth named) :=
  map (many (outerPiece hd named) .outerPiece)

theorem someExpression (named : Bool) : Advancing (Reader.someExpression depth named) :=
  .andThen (expression hd named) fun _ => by
    split
    · exact refuse
    · exact .pure _

omit hd in
theorem startsCall : Advancing Reader.startsCall := nextTwo

/-- A call is its name and the bracket of its arguments. -/
theorem functionCall : Advancing (Reader.functionCall depth) :=
  .andThen require fun _ => .andThen require fun _ => .andThen (expression hd _) fun _ =>
    .andThen require fun _ => .pure _

omit hd in
theorem startsConstraint : Advancing Reader.startsConstraint := .andThen next fun _ => map startsCall

/-- A constraint is chosen by the token in front. -/
theorem constraint : Advancing (Reader.constraint depth) :=
  ifAccept (.andThen (someExpression hd _) fun _ => .andThen require fun _ => .pure _) <|
    ifNext (map (existsTest hd)) (either startsCall (functionCall hd) refuse)

theorem namedExpression : Advancing (Reader.namedExpression depth) :=
  .andThen (someExpression hd _) fun _ => .andThen require fun _ => .andThen variableName fun _ =>
    .andThen require fun _ => .pure _

/-! ## Selections and modifiers -/

theorem projection? : Advancing (Reader.projection? depth) :=
  orElse (fun _ => .pure _) (ifAccept (.andThen (namedExpression hd) fun _ => .pure _) (.pure _))

omit hd in
theorem duplicates : Advancing Reader.duplicates := ifAccept (.pure _) (ifAccept (.pure _) (.pure _))

/-- Each projection takes a variable or an opening bracket. -/
theorem selection : Advancing (Reader.selection depth) :=
  .andThen require fun _ => .andThen duplicates fun _ => ifAccept (.pure _) <|
    .andThen (many (.within _ (projection? hd)) Progress.projection?) fun _ => by
      split
      · exact refuse
      · exact .pure _

theorem groupCondition? : Advancing (Reader.groupCondition? depth) :=
  orElse (fun _ => .pure _) <| ifAccept
    (.andThen (expression hd _) fun _ => ifAccept
      (.andThen require fun _ => .andThen require fun _ => .pure _) (.andThen require fun _ => .pure _))
    (either startsCall (functionCall hd).found (.pure _))

theorem orderKey? : Advancing (Reader.orderKey? depth) :=
  orElse (fun _ => .andThen require fun _ => .andThen (expression hd _) fun _ => .andThen require fun _ => .pure _) <|
    orElse (fun _ => .pure _) (either startsConstraint (map (constraint hd)) (.pure _))

theorem constraint? : Advancing (Reader.constraint? depth) :=
  either startsConstraint (constraint hd).found (.pure _)

omit hd in
/-- Items behind a keyword. -/
theorem clause {keyword : Reader Bool} {missing : Expected} {item : Reader (Option α)} (hk : Advancing keyword)
    (h : Advancing item) (progress : Progress Found item) : Advancing (Reader.clause keyword missing item) :=
  either hk
    (.andThen (many h progress) fun _ => by
      split
      · exact refuse
      · exact .pure _)
    (.pure _)

omit hd in
theorem keywordBy (keyword : String) : Advancing (Reader.keywordBy keyword) :=
  ifAccept (.andThen require fun _ => .pure _) (.pure _)

omit hd in
theorem slice? (keyword : String) : Advancing (Reader.slice? keyword) :=
  orElse
    (fun _ => .andThen require fun _ => by
      split
      · exact .pure _
      · exact .stop _)
    (.pure _)

omit hd in
theorem slices : Advancing Reader.slices :=
  option (slice? _) (fun _ => map (slice? _)) (option (slice? _) (fun _ => map (slice? _)) (.pure _))

/-- Each clause is a keyword with a loop over its items. -/
theorem modifiers : Advancing (Reader.modifiers depth) :=
  .andThen (clause (keywordBy _) (.within _ (groupCondition? hd)) Progress.groupCondition?) fun _ =>
    .andThen (clause accept (.within _ (constraint? hd)) Progress.constraint?) fun _ =>
      .andThen (clause (keywordBy _) (.within _ (orderKey? hd)) Progress.orderKey?) fun _ =>
        .andThen slices fun _ => .pure _

end Depth

/-! ## Inline data -/

theorem shortRow : Advancing Reader.shortRow := map cell

/-- The cells of a row are a loop up to the closing bracket. -/
theorem longRow (width : Nat) : Advancing (Reader.longRow width) :=
  .andThen require fun _ => .andThen (manyUntil cell .cell) fun _ => .andThen require fun _ => by
    split
    · exact .pure _
    · exact .stop _

/-- The variables of a header are a loop up to the closing bracket. -/
theorem names : Advancing Reader.names := many (orElse (fun _ => .pure _) (.pure _)) (.orElse (.pure nofun))

theorem valuesHeader : Advancing Reader.valuesHeader :=
  orElse (fun _ => .pure _) (ifAccept (.andThen names fun _ => .andThen require fun _ => .pure _) refuse)

/-- The rows that a header announces advance, and each takes a token. -/
theorem rows {p : Token → Bool} {tokens rest : List Token} {vars : List Text} {row : Reader (List Cell)}
    (read : Reader.valuesHeader.read tokens = .done (vars, row) rest) : Advancing (Reader.manyUntil p row) := by
  obtain ⟨_, -, -, -, rfl⟩ | ⟨_, _, _, -, -, -, -, -, rfl⟩ := valuesHeader_done read
  · exact manyUntil shortRow Progress.cell.of_first
  · exact manyUntil (longRow _) Progress.require.of_first

theorem valuesContent : Advancing Reader.valuesContent :=
  .andThen require fun _ => .bind valuesHeader fun _ _ _ read => .andThen require fun _ =>
    .andThen (rows read) fun _ => .andThen require fun _ => .pure _

/-- A block is its header and a loop over its rows. -/
theorem values : Advancing Reader.values := .asBlock _ valuesContent

theorem values? : Advancing Reader.values? := ifNext values.found (.pure _)

/-! ## Groups -/

section Depth

variable (hd : DepthAdvancing depth)
include hd

theorem whereGroup : Advancing (Reader.whereGroup depth) := .andThen accept fun _ => group hd

theorem subSelect : Advancing (Reader.subSelect depth) :=
  .andThen (selection hd) fun _ => .andThen (whereGroup hd) fun _ => .andThen (modifiers hd) fun _ => map values?

/-- Each further alternative takes the keyword `UNION`. -/
theorem alternatives : Advancing (Reader.alternatives depth) :=
  .andThen (group hd) fun _ =>
    .andThen (many (ifAccept (group hd).found (.pure _)) (.orElse' (.pure nofun))) fun _ => by
      split <;> exact .pure _

/-- A pattern is chosen by its keyword. -/
theorem pattern : Advancing (Reader.pattern depth) :=
  ifNext (alternatives hd) <| ifAccept (map (group hd)) <| ifAccept (map (group hd)) <|
    ifAccept (.andThen target fun _ => map (group hd)) <|
    ifAccept (.andThen accept fun _ => .andThen target fun _ => map (group hd)) <|
    ifAccept (map (constraint hd)) <|
    ifAccept (.andThen require fun _ => .andThen (namedExpression hd) fun _ => .pure _) (map values)

/-- Each turn of a group takes a pattern or triples. -/
theorem elements : Advancing (Reader.elements depth) :=
  ifNext (.pure _) <| ifNext (.andThen (pattern hd) fun _ => .andThen accept fun _ => .pure _) <|
    either startsNode
      (.andThen (triples hd) fun _ => ifAccept (.pure _) (ifNext (.pure _) (.pure _)))
      (.andThen peek fun _ => refuse)

/-- A group holds a sub-select or elements. -/
theorem content : Advancing (Reader.content depth) :=
  ifNext (map (subSelect hd)) (map (.loop (elements hd) (.elements id)))

end Depth

/-- **What can be read inside any bracket advances.** -/
theorem inside (brackets : Nat) : DepthAdvancing (Reader.inside brackets) := by
  induction brackets with
  | zero => exact nofun
  | succ brackets ih =>
    intro inner same
    obtain rfl := Option.some.inj same
    exact ⟨path ih, node ih, properties ih, Advancing.brackets ih, content ih, .node⟩

/-! ## Prologues -/

theorem namespaceLabel : Advancing Reader.namespaceLabel :=
  option peek
    (fun token => by
      dsimp only
      split
      · exact .stop _
      · exact map require)
    refuse

/-- A declaration takes its keyword, or nothing is declared. -/
theorem declaration? : Advancing Reader.declaration? :=
  ifAccept (map iri) (ifAccept (.andThen namespaceLabel fun _ => map iri) (.pure _))

/-- Each turn of a prologue takes a declaration. -/
theorem prologue : Advancing Reader.prologue := many declaration? .declaration?

/-- Graphs behind a keyword each. -/
theorem named {p q : Token → Bool} : Advancing (Reader.many do
    if ← Reader.accept p then
      let _ ← Reader.accept q
      return some (← Reader.resource)
    else return none) :=
  many (ifAccept (.andThen accept fun _ => resource.found) (.pure _)) (.orElse' (.pure nofun))

/-- Each dataset clause takes its keyword. -/
theorem datasets : Advancing Reader.datasets := .andThen named fun _ => .pure _

/-! ## Forms of queries -/

/-- Each resource that is described takes a token. -/
theorem described : Advancing Reader.described :=
  ifAccept (.pure _) (.andThen (many (.accept? _) .accept?) fun _ => by
    split
    · exact refuse
    · exact .pure _)

section Depth

variable (hd : DepthAdvancing depth)
include hd

theorem template : Advancing (Reader.template depth) := .within _ (group hd)

/-- What follows a pattern. -/
theorem solution (make : Modifiers → Option Values → β) : Advancing (do
    let modifiers ← Reader.modifiers depth
    return make modifiers (← Reader.values?)) :=
  .andThen (modifiers hd) fun _ => map values?

theorem selectBody : Advancing (Reader.selectBody depth) :=
  .andThen (selection hd) fun _ => .andThen datasets fun _ => .andThen (whereGroup hd) fun _ => solution hd _

theorem askBody : Advancing (Reader.askBody depth) :=
  .andThen require fun _ => .andThen datasets fun _ => .andThen (whereGroup hd) fun _ => solution hd _

theorem constructGroup : Advancing (Reader.constructGroup depth) :=
  ifNext (.andThen (template hd) fun _ => .andThen datasets fun _ => whereGroup hd)
    (.andThen datasets fun _ => .andThen require fun _ => group hd)

theorem constructBody : Advancing (Reader.constructBody depth) :=
  .andThen require fun _ => .andThen (constructGroup hd) fun _ => solution hd _

theorem describeBody : Advancing (Reader.describeBody depth) := by
  refine .andThen require fun _ => .andThen described fun _ => .andThen datasets fun _ =>
    .andThen accept fun _ => .andThen next fun _ => ?_
  split
  · exact .andThen (map (group hd)) fun _ => solution hd _
  · exact .andThen (.pure _) fun _ => solution hd _

/-! ## Updates -/

omit hd in
theorem graphOrDefault : Advancing Reader.graphOrDefault :=
  ifAccept (.pure _) (.andThen accept fun _ => .andThen resource fun _ => .pure _)

omit hd in
theorem manage (management : Management) : Advancing (Reader.manage management) := by
  have clears : Advancing (do
      if ← Reader.accept (·.spells ["GRAPH"]) then
        let _ ← Reader.resource
      else
        let _ ← Reader.word ["DEFAULT", "NAMED", "ALL"]
      return Operation.manage management) :=
    ifAccept (.andThen resource fun _ => .pure _) (.andThen require fun _ => .pure _)
  have copies : Advancing (do
      Reader.graphOrDefault
      let _ ← Reader.word ["TO"]
      Reader.graphOrDefault
      return Operation.manage management) :=
    .andThen graphOrDefault fun _ => .andThen require fun _ => .andThen graphOrDefault fun _ => .pure _
  refine .andThen accept fun _ => ?_
  cases management with
  | load =>
    exact .andThen resource fun _ =>
      ifAccept (.andThen require fun _ => .andThen resource fun _ => .pure _) (.pure _)
  | clear => exact clears
  | drop => exact clears
  | create => exact .andThen require fun _ => .andThen resource fun _ => .pure _
  | add => exact copies
  | move => exact copies
  | copy => exact copies

theorem modify (deleted inserted : Option Group) : Advancing (Reader.modify depth deleted inserted) :=
  .andThen named fun _ => .andThen require fun _ => map (group hd)

theorem insert (deleted : Option Group) : Advancing (do
    let inserted ← Reader.template depth
    Reader.modify depth deleted (some inserted)) :=
  .andThen (template hd) fun _ => modify hd _ _

theorem deleteInsert : Advancing (Reader.deleteInsert depth) :=
  .andThen (template hd) fun _ =>
    ifAccept (.andThen (map (template hd)) fun _ => modify hd _ _) (.andThen (.pure _) fun _ => modify hd _ _)

/-- An operation is chosen by its keyword. -/
theorem operation : Advancing (Reader.operation depth) := by
  refine orElse (fun token => ?_) (ifAccept ?_ (ifAccept ?_ (ifAccept ?_ refuse)))
  · dsimp only
    split
    · exact manage _
    · exact refuse
  · exact ifAccept (map (template hd)) (insert hd none)
  · exact ifAccept (map (template hd)) (ifAccept (map (group hd)) (deleteInsert hd))
  · exact .andThen resource fun _ => ifAccept (insert hd none) (.andThen require fun _ => deleteInsert hd)

/-- A turn takes an operation, and a semicolon if another may follow. -/
theorem operationTurn : Advancing (Reader.operationTurn depth) :=
  .andThen (operation hd) fun _ =>
    ifAccept (.andThen prologue fun _ => .andThen peek fun _ => by split <;> exact .pure _) (.pure _)

/-- Operations one after the other. -/
theorem operations : Advancing (Reader.loop (Reader.operationTurn depth)) :=
  .loop (operationTurn hd) Progress.operation.of_first

/-! ## All forms -/

/-- **The body of a query is one of its forms**, chosen by the keyword in front. -/
theorem body : Advancing (Reader.body depth) :=
  ifNext (map (selectBody hd)) <| ifNext (map (askBody hd)) <| ifNext (map (constructBody hd)) <|
    ifNext (map (describeBody hd)) <| ifNext (.andThen (operations hd) fun _ => .pure _) refuse

/-- **Every loop of the reading of a query advances.** -/
theorem query : Advancing (Reader.query depth) :=
  .andThen prologue fun _ => .andThen (body hd) fun _ => .andThen peek fun _ => by
    split
    · exact refuse
    · exact .pure _

end Depth

end Advancing

end QuerySignature.Reader
