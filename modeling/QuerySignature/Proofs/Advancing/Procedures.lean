import QuerySignature.Proofs.Advancing.Readers
import QuerySignature.Proofs.Outcome.Causal

/-!
# Proofs/Advancing/Procedures — where a procedure leaves the cursor

A cursor is a place in a list of tokens that ends, with other ends before or behind it (`Token.Cursor`).  A parsing
procedure (`Reader.Procedure`) sees the tokens up to the first end at the cursor or behind it.  If it returns, the
cursor has not moved back or past that end, and as many brackets are open as before; each turn of its loops
(`Reader.Iteration`) takes a token unless it ends the loop.  Therefore reading a list of tokens ends, after no more
tokens are taken than there are (`procedures_advance`).
-/

namespace QuerySignature

/-! ## Cursors -/

/-- **A place in a list of tokens that ends**, with some brackets open. -/
structure Token.Cursor where
  tokens : List Token
  ended : tokens.getLast?.any (·.kind = .eof) = true
  position : Nat
  inRange : position < tokens.length
  depth : Nat

namespace Token.Cursor

variable {α : Type} {cursor cursor' : Cursor} {R : Reader α} {a : α}

/-- **The tokens at hand**: those from the cursor on, up to the first that ends the text. -/
def ahead (cursor : Cursor) : List Token :=
  (Token.beforeEnd (cursor.tokens.drop cursor.position)).1

/-- A procedure that returns leaves the cursor there. -/
structure Leaves (cursor : Cursor) (R : Reader α) (a : α) (cursor' : Cursor) : Prop where
  returns : R.read cursor.ahead = .done a cursor'.ahead
  tokens : cursor'.tokens = cursor.tokens
  position : cursor'.position = cursor.position + (R.taken cursor.ahead).length
  depth : (cursor'.depth : Int) = cursor.depth + Shift.gain (R.shifts cursor.ahead)

/-- What is at the cursor: tokens at hand and an end behind them. -/
theorem exists_end_ahead (cursor : Cursor) : ∃ stop more, cursor.tokens.drop cursor.position =
    cursor.ahead ++ stop :: more ∧ (∀ token ∈ cursor.ahead, token.kind ≠ .eof) ∧ stop.kind = .eof := by
  obtain ⟨last, isLast, ends⟩ := (Option.any_eq_true _ _).mp cursor.ended
  have behind : last ∈ cursor.tokens.drop cursor.position := by
    refine List.mem_of_getLast? ?_
    rw [List.getLast?_drop, if_neg (Nat.not_le.mpr cursor.inRange), isLast]
  obtain ⟨words, stop, more, whole, free, stops⟩ := exists_end ⟨last, behind, of_decide_eq_true ends⟩
  have same : cursor.ahead = words := by rw [ahead, whole, beforeEnd_append free stops]
  exact ⟨stop, more, same ▸ whole, same ▸ free, stops⟩

/-- **No end is at hand**: each stands behind the tokens that are. -/
theorem length_ahead_le {stop : Nat} (behind : cursor.position ≤ stop)
    (ends : cursor.tokens[stop]?.any (·.kind = .eof) = true) : cursor.position + cursor.ahead.length ≤ stop := by
  obtain ⟨first, more, whole, free, -⟩ := cursor.exists_end_ahead
  by_contra inside
  obtain ⟨token, found, isEnd⟩ := (Option.any_eq_true _ _).mp ends
  have place : stop - cursor.position < cursor.ahead.length := by omega
  have at_ : (cursor.tokens.drop cursor.position)[stop - cursor.position]? = some token := by
    rw [List.getElem?_drop, Nat.add_sub_of_le behind, found]
  rw [whole, List.getElem?_append_left place] at at_
  exact free token (List.mem_of_getElem? at_) (of_decide_eq_true isEnd)

/-- The cursor behind some of the tokens at hand. -/
theorem exists_moved {taken rest : List Token} (h : cursor.ahead = taken ++ rest) :
    ∃ cursor' : Cursor, cursor'.tokens = cursor.tokens ∧ cursor'.ahead = rest ∧
      cursor'.position = cursor.position + taken.length ∧ cursor'.depth = cursor.depth := by
  obtain ⟨stop, more, whole, free, stops⟩ := cursor.exists_end_ahead
  rw [h] at whole free
  have further : cursor.tokens.drop (cursor.position + taken.length) = rest ++ stop :: more := by
    rw [← List.drop_drop, whole, List.append_assoc, List.drop_left]
  have inRange : cursor.position + taken.length < cursor.tokens.length := by
    have length := congrArg List.length further
    rw [List.length_drop, List.length_append, List.length_cons] at length
    omega
  refine ⟨⟨cursor.tokens, cursor.ended, _, inRange, cursor.depth⟩, rfl, ?_, rfl, rfl⟩
  have free' : ∀ token ∈ rest, token.kind ≠ .eof := fun token member => free token (List.mem_append_right _ member)
  rw [ahead, further, beforeEnd_append free' stops]

end Token.Cursor

/-! ## Procedures -/

namespace Reader

/-- **The parsing procedures**, where so many more brackets may be open. -/
inductive Procedure (depth : Option Inside) : {α : Type} → Reader α → Prop where
  -- single tokens
  | peek : Procedure depth peek
  | next (p : Token → Bool) : Procedure depth (next p)
  | nextTwo (p q : Token → Bool) : Procedure depth (nextTwo p q)
  | accept? (p : Token → Bool) : Procedure depth (accept? p)
  | acceptTwo? (p q : Token → Bool) : Procedure depth (acceptTwo? p q)
  | accept (p : Token → Bool) : Procedure depth (accept p)
  | require (expected : Expected) (p : Token → Bool) : Procedure depth (require expected p)
  -- terms
  | variableName : Procedure depth variableName
  | resource : Procedure depth resource
  | iri : Procedure depth iri
  | target : Procedure depth target
  | signedNumber? : Procedure depth signedNumber?
  | term : Procedure depth term
  | cell : Procedure depth cell
  -- paths
  | inverseStep : Procedure depth inverseStep
  | negatedSet : Procedure depth (negatedSet depth)
  | pathPrimary : Procedure depth (pathPrimary depth)
  | pathElement : Procedure depth (pathElement depth)
  | pathSequence : Procedure depth (pathSequence depth)
  | path : Procedure depth (path depth)
  | verb : Procedure depth (verb depth)
  -- triples
  | node : Procedure depth (node depth)
  | startsNode : Procedure depth startsNode
  | objects : Procedure depth (objects depth)
  | property : Procedure depth (property depth)
  | properties : Procedure depth (properties depth)
  | triples : Procedure depth (triples depth)
  -- expressions
  | existsTest : Procedure depth (existsTest depth)
  | piece : Procedure depth (piece depth)
  | brackets : Procedure depth (brackets depth)
  | outerPiece (named : Bool) : Procedure depth (outerPiece depth named)
  | expression (named : Bool) : Procedure depth (expression depth named)
  | someExpression (named : Bool) : Procedure depth (someExpression depth named)
  | namedExpression : Procedure depth (namedExpression depth)
  | startsCall : Procedure depth startsCall
  | functionCall : Procedure depth (functionCall depth)
  | startsConstraint : Procedure depth startsConstraint
  | constraint : Procedure depth (constraint depth)
  -- selections and modifiers
  | projection? : Procedure depth (projection? depth)
  | duplicates : Procedure depth duplicates
  | selection : Procedure depth (selection depth)
  | groupCondition? : Procedure depth (groupCondition? depth)
  | constraint? : Procedure depth (constraint? depth)
  | orderKey? : Procedure depth (orderKey? depth)
  | slice? {keyword : String} : keyword ∈ ["LIMIT", "OFFSET"] → Procedure depth (slice? keyword)
  | slices : Procedure depth slices
  | modifiers : Procedure depth (modifiers depth)
  -- inline data
  | shortRow : Procedure depth shortRow
  | longRow (width : Nat) : Procedure depth (longRow width)
  | names : Procedure depth names
  | values : Procedure depth values
  | values? : Procedure depth values?
  -- groups
  | group : Procedure depth (group depth)
  | whereGroup : Procedure depth (whereGroup depth)
  | subSelect : Procedure depth (subSelect depth)
  | alternatives : Procedure depth (alternatives depth)
  | pattern : Procedure depth (pattern depth)
  | elements : Procedure depth (elements depth)
  | content : Procedure depth (content depth)
  -- forms of queries
  | namespaceLabel : Procedure depth namespaceLabel
  | declaration? : Procedure depth declaration?
  | prologue : Procedure depth prologue
  | datasets : Procedure depth datasets
  | described : Procedure depth described
  | template : Procedure depth (template depth)
  | selectBody : Procedure depth (selectBody depth)
  | askBody : Procedure depth (askBody depth)
  | constructGroup : Procedure depth (constructGroup depth)
  | constructBody : Procedure depth (constructBody depth)
  | describeBody : Procedure depth (describeBody depth)
  -- updates
  | graphOrDefault : Procedure depth graphOrDefault
  | modify (deleted inserted : Option Group) : Procedure depth (modify depth deleted inserted)
  | deleteInsert : Procedure depth (deleteInsert depth)
  | manage (management : Management) : Procedure depth (manage management)
  | operation : Procedure depth (operation depth)
  | operationTurn : Procedure depth (operationTurn depth)
  | operations : Procedure depth (loop (operationTurn depth))
  -- whole queries
  | body : Procedure depth (body depth)
  | query : Procedure depth (query depth)

/-- **The turns of the loops** in those procedures. -/
inductive Iteration (depth : Option Inside) : {α : Type} → Reader (Turn α) → Prop where
  -- paths and triples
  | separated (mark : String) {item : Reader (List Token)} :
      (mark = "|" ∧ item = inverseStep) ∨ (mark = "/" ∧ item = pathElement depth) ∨
        (mark = "|" ∧ item = pathSequence depth) →
      Iteration depth (itemTurn do
        match ← accept? (·.isSymbol [mark]) with
        | some token => return some (token :: (← item))
        | none => return none)
  | collection {inner : Inside} : depth = some inner →
      Iteration depth (itemTurn do if ← next (!·.isSymbol [")"]) then return some (← inner.node) else return none)
  | objects : Iteration depth (itemTurn do
      if ← accept (·.isSymbol [","]) then return some (← node depth) else return none)
  | semicolons : Iteration depth (itemTurn (accept? (·.isSymbol [";"])))
  | properties : Iteration depth (property depth)
  -- expressions, selections and modifiers
  | brackets : Iteration depth (itemTurn do if ← next isCloser then return none else return some (← piece depth))
  | expression (named : Bool) : Iteration depth (itemTurn (outerPiece depth named))
  | selection : Iteration depth (itemTurn (within .projection (projection? depth)))
  | grouping : Iteration depth (itemTurn (within .grouping (groupCondition? depth)))
  | having : Iteration depth (itemTurn (within .having (constraint? depth)))
  | order : Iteration depth (itemTurn (within .ordering (orderKey? depth)))
  -- inline data
  | names : Iteration depth (itemTurn do
      match ← accept? (·.kind = .var) with
      | some token => return some token.name
      | none => return none)
  | cells : Iteration depth (itemTurn do if ← next (·.isSymbol [")"]) then return none else return some (← cell))
  | rows {row : Reader (List Cell)} : (row = shortRow ∨ ∃ width, row = longRow width) →
      Iteration depth (itemTurn do if ← next (·.isSymbol ["\x7d"]) then return none else return some (← row))
  -- groups
  | alternatives : Iteration depth (itemTurn do
      if ← accept (·.spells ["UNION"]) then return some (← group depth) else return none)
  | elements : Iteration depth (elements depth)
  -- forms of queries and updates
  | prologue : Iteration depth (itemTurn declaration?)
  | graphs {keyword : String} : keyword ∈ ["FROM", "USING"] → Iteration depth (itemTurn do
      if ← accept (·.spells [keyword]) then
        let _ ← accept (·.spells ["NAMED"])
        return some (← resource)
      else return none)
  | described : Iteration depth (itemTurn (accept? fun token =>
      token.kind = .var || token.kind = .iri || token.kind = .prefixedName))
  | operations : Iteration depth (operationTurn depth)

variable {α : Type} {depth : Option Inside} {R : Reader α} {S : Token → Prop} {ceiling level : Nat}

theorem content_anything (hd : DepthOrderly S ceiling level depth) : Orderly S ceiling level Anything (content depth) :=
  .ifNext (.andThen (subSelect_orderly hd).anything fun _ => .pure fun _ => trivial)
    (.andThen (loop_orderly (elements_orderly hd)).anything fun _ => .pure fun _ => trivial)

theorem declaration?_orderly : Orderly S ceiling level Anything declaration? :=
  .ifAccept (.andThen iri_orderly fun _ => .pure fun _ => trivial)
    (.ifAccept (.andThen namespaceLabel_orderly fun _ => .andThen iri_orderly fun _ => .pure fun _ => trivial)
      (.pure fun _ => trivial))

theorem modify_anything (hd : DepthOrderly S ceiling level depth) (deleted inserted : Option Group) :
    Orderly S ceiling level Anything (modify depth deleted inserted) :=
  .andThen named_orderly fun _ => .word fun _ => .andThen (group_orderly hd).anything fun _ => .pure fun _ => trivial

/-- **Every loop of a procedure advances, and it ends as deep as it started.** -/
theorem Procedure.advancing_orderly (h : Procedure depth R) (hd : DepthAdvancing depth)
    (hd' : DepthOrderly S ceiling level depth) : R.Advancing ∧ Orderly S ceiling level Anything R := by
  cases h with
  | peek => exact ⟨.peek, peek_orderly.anything⟩
  | next => exact ⟨.next, next_orderly⟩
  | nextTwo => exact ⟨.nextTwo, nextTwo_orderly⟩
  | accept? => exact ⟨.accept? _, accept?_orderly.anything⟩
  | acceptTwo? => exact ⟨.acceptTwo? _ _, acceptTwo?_orderly.anything⟩
  | accept => exact ⟨.accept, accept_orderly⟩
  | require => exact ⟨.require, require_orderly.anything⟩
  | variableName => exact ⟨.variableName, variableName_orderly⟩
  | resource => exact ⟨.resource, resource_orderly⟩
  | iri => exact ⟨.iri, iri_orderly⟩
  | target => exact ⟨.target, target_orderly⟩
  | signedNumber? => exact ⟨.signedNumber?, signedNumber?_orderly⟩
  | term => exact ⟨.term, term_orderly.anything⟩
  | cell => exact ⟨.cell, cell_orderly⟩
  | inverseStep => exact ⟨.inverseStep, inverseStep_orderly⟩
  | negatedSet => exact ⟨.negatedSet hd, negatedSet_orderly hd'⟩
  | pathPrimary => exact ⟨.pathPrimary hd, pathPrimary_orderly hd'⟩
  | pathElement => exact ⟨.pathElement hd, pathElement_orderly hd'⟩
  | pathSequence => exact ⟨.pathSequence hd, separated_orderly (pathElement_orderly hd')⟩
  | path => exact ⟨.path hd, path_orderly hd'⟩
  | verb => exact ⟨.verb hd, verb_orderly hd'⟩
  | node => exact ⟨.node hd, (node_orderly hd').anything⟩
  | startsNode => exact ⟨.startsNode, startsNode_orderly⟩
  | objects => exact ⟨.objects hd, (objects_orderly hd').anything⟩
  | property => exact ⟨.property hd, (property_orderly hd').anything⟩
  | properties => exact ⟨.properties hd, (properties_orderly hd').anything⟩
  | triples => exact ⟨.triples hd, (triples_orderly hd').anything⟩
  | existsTest => exact ⟨.existsTest hd, (existsTest_orderly hd').anything⟩
  | piece => exact ⟨.piece hd, (piece_orderly hd').anything⟩
  | brackets => exact ⟨.brackets hd, (brackets_orderly hd').anything⟩
  | outerPiece named => exact ⟨.outerPiece hd named, (outerPiece_orderly hd').anything⟩
  | expression named => exact ⟨.expression hd named, (expression_orderly hd').anything⟩
  | someExpression named => exact ⟨.someExpression hd named, (someExpression_orderly hd').anything⟩
  | namedExpression => exact ⟨.namedExpression hd, (namedExpression_orderly hd').anything⟩
  | startsCall => exact ⟨.startsCall, startsCall_orderly⟩
  | functionCall => exact ⟨.functionCall hd, (functionCall_orderly hd').anything⟩
  | startsConstraint => exact ⟨.startsConstraint, startsConstraint_orderly⟩
  | constraint => exact ⟨.constraint hd, (constraint_orderly hd').anything⟩
  | projection? => exact ⟨.projection? hd, (projection?_orderly hd').anything⟩
  | duplicates => exact ⟨.duplicates, duplicates_orderly⟩
  | selection => exact ⟨.selection hd, (selection_orderly hd').anything⟩
  | groupCondition? => exact ⟨.groupCondition? hd, (groupCondition?_orderly hd').anything⟩
  | constraint? => exact ⟨.constraint? hd, (constraint?_orderly hd').anything⟩
  | orderKey? => exact ⟨.orderKey? hd, (orderKey?_orderly hd').anything⟩
  | slice? slices => exact ⟨.slice? _, (slice?_orderly slices).anything⟩
  | slices => exact ⟨.slices, slices_orderly⟩
  | modifiers => exact ⟨.modifiers hd, (modifiers_orderly hd').anything⟩
  | shortRow => exact ⟨.shortRow, shortRow_orderly⟩
  | longRow width => exact ⟨.longRow width, longRow_orderly width⟩
  | names => exact ⟨.names, names_orderly⟩
  | values => exact ⟨.values, values_orderly⟩
  | values? => exact ⟨.values?, values?_orderly⟩
  | group => exact ⟨.group hd, (group_orderly hd').anything⟩
  | whereGroup => exact ⟨.whereGroup hd, (whereGroup_orderly hd').anything⟩
  | subSelect => exact ⟨.subSelect hd, (subSelect_orderly hd').anything⟩
  | alternatives => exact ⟨.alternatives hd, (alternatives_orderly hd').anything⟩
  | pattern => exact ⟨.pattern hd, (pattern_orderly hd').anything⟩
  | elements => exact ⟨.elements hd, (elements_orderly hd').anything⟩
  | content => exact ⟨.content hd, content_anything hd'⟩
  | namespaceLabel => exact ⟨.namespaceLabel, namespaceLabel_orderly⟩
  | declaration? => exact ⟨.declaration?, declaration?_orderly⟩
  | prologue => exact ⟨.prologue, prologue_orderly⟩
  | datasets => exact ⟨.datasets, datasets_orderly⟩
  | described => exact ⟨.described, described_orderly⟩
  | template => exact ⟨.template hd, (template_orderly hd').anything⟩
  | selectBody => exact ⟨.selectBody hd, (selectBody_orderly hd').anything⟩
  | askBody => exact ⟨.askBody hd, (askBody_orderly hd').anything⟩
  | constructGroup => exact ⟨.constructGroup hd, (constructGroup_orderly hd').anything⟩
  | constructBody => exact ⟨.constructBody hd, (constructBody_orderly hd').anything⟩
  | describeBody => exact ⟨.describeBody hd, (describeBody_orderly hd').anything⟩
  | graphOrDefault => exact ⟨.graphOrDefault, graphOrDefault_orderly⟩
  | modify deleted inserted => exact ⟨.modify hd deleted inserted, modify_anything hd' deleted inserted⟩
  | deleteInsert => exact ⟨.deleteInsert hd, (deleteInsert_orderly hd').anything⟩
  | manage management => exact ⟨.manage management, (manage_orderly management).anything⟩
  | operation => exact ⟨.operation hd, (operation_orderly hd').anything⟩
  | operationTurn => exact ⟨.operationTurn hd, (operationTurn_orderly hd').anything⟩
  | operations => exact ⟨.operations hd, (loop_orderly (operationTurn_orderly hd')).anything⟩
  | body => exact ⟨.body hd, (body_orderly hd').anything⟩
  | query => exact ⟨.query hd, (query_orderly hd').anything⟩

/-- **A turn that goes on has taken a token.** -/
theorem Iteration.progress {turn : Reader (Turn α)} (h : Iteration depth turn) (hd : DepthAdvancing depth) :
    Progress Turn.GoesOn turn := by
  cases h with
  | separated => exact goesOn_itemTurn (.orElse (.pure nofun))
  | collection opens => exact goesOn_itemTurn (.choice (hd _ opens).progress.of_first (.pure nofun))
  | objects => exact goesOn_itemTurn (.orElse' (.pure nofun))
  | semicolons => exact goesOn_itemTurn .accept?
  | properties => exact .property
  | brackets => exact goesOn_itemTurn (.choice (.pure nofun) Progress.piece.of_first)
  | expression => exact goesOn_itemTurn .outerPiece
  | selection => exact goesOn_itemTurn Progress.projection?
  | grouping => exact goesOn_itemTurn Progress.groupCondition?
  | having => exact goesOn_itemTurn Progress.constraint?
  | order => exact goesOn_itemTurn Progress.orderKey?
  | names => exact goesOn_itemTurn (.orElse (.pure nofun))
  | cells => exact goesOn_itemTurn (.choice (.pure nofun) Progress.cell.of_first)
  | rows isRow =>
    obtain rfl | ⟨width, rfl⟩ := isRow
    · exact goesOn_itemTurn (.choice (.pure nofun) (Progress.of_first Progress.cell.of_first))
    · exact goesOn_itemTurn (.choice (.pure nofun) (Progress.of_first Progress.require.of_first))
  | alternatives => exact goesOn_itemTurn (.orElse' (.pure nofun))
  | elements => exact .elements id
  | prologue => exact goesOn_itemTurn .declaration?
  | graphs => exact goesOn_itemTurn (.orElse' (.pure nofun))
  | described => exact goesOn_itemTurn .accept?
  | operations => exact Progress.operation.of_first

section Inside

variable {brackets : Nat} (h : Procedure (inside brackets) R)
include h

theorem Procedure.orderly : Orderly (fun _ => True) brackets 0 Anything R :=
  (h.advancing_orderly (Advancing.inside brackets) (inside_orderly brackets (Nat.zero_add _))).2

theorem Procedure.advancing : R.Advancing :=
  (h.advancing_orderly (Advancing.inside brackets)
    (inside_orderly brackets (Nat.zero_add _) : DepthOrderly (fun _ => True) brackets 0 (inside brackets))).1

/-- A procedure that returns has closed as many brackets as it has opened. -/
theorem Procedure.gain_eq_zero {tokens rest : List Token} {a : α} (read : R.read tokens = .done a rest) :
    Shift.gain (R.shifts tokens) = 0 := by
  have passes : PassesAt (fun _ => True) brackets 0 0 Anything R tokens := h.orderly (Nat.zero_le _) fun _ _ => trivial
  have ends := passes.ends
  rw [read] at ends
  cases ends with
  | done level _ => rwa [Int.natCast_zero, Int.zero_add] at level

end Inside

end Reader

/-! ## Where procedures lead -/

/-- What a reading of a whole query is reported as, where the text ends at a position. -/
def Reading.outcome (limits : Limits) (stop : Position) : Reading Query → Except StreamFailure Query
  | .done query _ => .ok query
  | .stopped fault _ => .error (.failed (fault.failure limits stop))

/-- **How the reading of a list of tokens ends**, and how many tokens are taken before: the list may not be read and
none is taken, or the reader of queries has run over the tokens before the first end. -/
inductive Token.Parsed (limits : Limits) (tokens : List Token) : Except StreamFailure Query → Nat → Prop where
  | refused {failure : StreamFailure} : ¬Token.Readable limits tokens → Parsed limits tokens (.error failure) 0
  | run {reading : Reading Query} {n : Nat} : Token.Readable limits tokens →
      limits.reader.Runs (Token.beforeEnd tokens).1 reading n →
      Parsed limits tokens (reading.outcome limits (Token.beforeEnd tokens).2) n

/-- A list that may be read is reported as its reading. -/
theorem parseTokens_eq_outcome {limits : Limits} {tokens : List Token} (readable : Token.Readable limits tokens) :
    parseTokens limits tokens =
      (limits.reader.read (Token.beforeEnd tokens).1).outcome limits (Token.beforeEnd tokens).2 := by
  have whole : parseTokens limits tokens =
      (Query.ofTokens limits (Token.beforeEnd tokens).1 (Token.beforeEnd tokens).2).mapError .failed := by
    unfold parseTokens
    rw [if_pos readable.ended, if_neg (Nat.not_lt.mpr readable.few)]
  rw [whole, Query.ofTokens, show Reader.query (Reader.inside limits.maxDepth) = limits.reader from rfl]
  cases limits.reader.read (Token.beforeEnd tokens).1 <;> rfl

/-- A list that may not be read is refused. -/
theorem parseTokens_of_not_readable {limits : Limits} {tokens : List Token}
    (unreadable : ¬Token.Readable limits tokens) : ∃ failure, parseTokens limits tokens = .error failure := by
  unfold parseTokens
  by_cases ended : tokens.getLast?.any (·.kind = .eof) = true
  · have many : limits.maxTokens < tokens.length - 1 := Nat.lt_of_not_le fun few => unreadable ⟨ended, few⟩
    rw [if_pos ended, if_pos many]
    exact ⟨_, rfl⟩
  · rw [if_neg ended]
    exact ⟨_, rfl⟩

/-- **Reading a list of tokens ends**, after no more tokens are taken than there are. -/
theorem exists_parsed (limits : Limits) (tokens : List Token) :
    ∃ n ≤ tokens.length, Token.Parsed limits tokens (parseTokens limits tokens) n := by
  by_cases readable : Token.Readable limits tokens
  · obtain ⟨n, run⟩ :=
      (Reader.Advancing.query (Reader.Advancing.inside limits.maxDepth)).hasRun (Token.beforeEnd tokens).1
    refine ⟨n, ?_, parseTokens_eq_outcome readable ▸ .run readable run⟩
    have taken := run.length
    have before : (Token.beforeEnd tokens).1.length ≤ tokens.length := (List.takeWhile_sublist _).length_le
    omega
  · obtain ⟨failure, refused⟩ := parseTokens_of_not_readable readable
    exact ⟨0, Nat.zero_le _, refused ▸ .refused readable⟩

/-- **Every procedure advances**: wherever the cursor is, it has a run in which each loop advances, and if it returns,
the cursor is no earlier than before and not behind an end that was behind it, with as many brackets open; each turn
of a loop that goes on has taken a token.  Therefore reading a list of tokens ends, after no more tokens are taken than
there are. -/
theorem procedures_advance (limits : Limits) :
    (∀ (cursor : Token.Cursor) {α : Type} {R : Reader α},
      Reader.Procedure (Reader.inside (limits.maxDepth - cursor.depth)) R →
      R.Advancing ∧ R.HasRun cursor.ahead ∧ ∀ a rest, R.read cursor.ahead = .done a rest →
        ∃ cursor', cursor.Leaves R a cursor' ∧ cursor'.ahead = rest ∧ cursor.position ≤ cursor'.position ∧
          (∀ stop ≥ cursor.position, cursor.tokens[stop]?.any (·.kind = .eof) = true → cursor'.position ≤ stop) ∧
          cursor'.depth = cursor.depth) ∧
    (∀ (cursor : Token.Cursor) {α : Type} {turn : Reader (Reader.Turn α)},
      Reader.Iteration (Reader.inside (limits.maxDepth - cursor.depth)) turn →
      ∀ item rest, turn.read cursor.ahead = .done (.more item) rest → 0 < (turn.taken cursor.ahead).length) ∧
    ∀ tokens, ∃ n ≤ tokens.length, Token.Parsed limits tokens (parseTokens limits tokens) n := by
  refine ⟨fun cursor _ R procedure => ?_, fun cursor _ turn iteration item rest read => ?_, exists_parsed limits⟩
  · have advancing : R.Advancing := procedure.advancing
    refine ⟨advancing, advancing.hasRun _, fun a rest read => ?_⟩
    have whole : cursor.ahead = R.taken cursor.ahead ++ rest := by
      have conserved := R.taken_append cursor.ahead
      rw [read] at conserved
      exact conserved.symm
    obtain ⟨cursor', tokens, ahead, position, depth⟩ := cursor.exists_moved whole
    have level : (cursor'.depth : Int) = cursor.depth + Shift.gain (R.shifts cursor.ahead) := by
      rw [procedure.gain_eq_zero read, depth, Int.add_zero]
    refine ⟨cursor', ⟨ahead ▸ read, tokens, position, level⟩, ahead, by omega, fun stop behind ends => ?_, depth⟩
    have within := cursor.length_ahead_le behind ends
    have few := congrArg List.length whole
    rw [List.length_append] at few
    omega
  · have less : rest.length < cursor.ahead.length := iteration.progress (Reader.Advancing.inside _) read trivial
    have conserved := congrArg List.length (turn.taken_append cursor.ahead)
    rw [read, List.length_append, Reading.rest] at conserved
    omega

/-- Objects inside three brackets, and a semicolon behind them, in front of the first of two ends. -/
theorem procedures_advance_objects :
    let word (kind : Token.Kind) (text : String) : Token := ⟨kind, text.toList, .start⟩
    let tokens := [word .keyword "ASK", word .var "?a", word .punctuation ",", word .var "?b", word .punctuation ";",
      word .punctuation ";", word .eof "", word .var "?c", word .eof ""]
    let before : Token.Cursor := ⟨tokens, rfl, 1, by decide, 3⟩
    let behind : Token.Cursor := ⟨tokens, rfl, 4, by decide, 3⟩
    let semicolon := Reader.itemTurn (Reader.accept? (·.isSymbol [";"]))
    (∃ cursor', before.Leaves (Reader.objects (Reader.inside 197)) [.var ['a'], .var ['b']] cursor' ∧
      cursor'.ahead = tokens.extract 4 6 ∧ cursor'.position ≤ 6 ∧ cursor'.depth = 3) ∧
    0 < (semicolon.taken behind.ahead).length := by
  intro word tokens before behind semicolon
  obtain ⟨objects, semicolons, -⟩ := procedures_advance .standard
  obtain ⟨-, -, leaves⟩ := objects before .objects
  obtain ⟨cursor', left, ahead, -, within, depth⟩ := leaves [.var ['a'], .var ['b']] (tokens.extract 4 6) rfl
  exact ⟨⟨cursor', left, ahead, within 6 (by decide) rfl, depth⟩,
    semicolons behind .semicolons (word .punctuation ";") [word .punctuation ";"] rfl⟩

end QuerySignature
