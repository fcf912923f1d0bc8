import QuerySignature.Proofs.Reading.Values
import QuerySignature.Reading.Modifiers

/-!
# Proofs/Reading/Expressions — expressions and modifiers side by side

An expression keeps the texts of its tokens, the variables among them and the groups it tests.  Tokens that
are taken for others have the same variables, for a block has those of its header only.
-/

namespace QuerySignature

variable {L : Likeness}

/-! ## What an expression keeps of its tokens -/

/-- The names of the variables among tokens. -/
def Token.varNames (tokens : List Token) : List Text :=
  (tokens.filter (·.kind = .var)).map Token.name

/-- The names of two runs are theirs, one after the other. -/
theorem Token.varNames_append (first second : List Token) :
    Token.varNames (first ++ second) = Token.varNames first ++ Token.varNames second := by
  rw [Token.varNames, List.filter_append, List.map_append]
  rfl

/-- Only variables have names. -/
theorem Token.varNames_of_ne {t : Token} (h : t.kind ≠ .var) (tokens : List Token) :
    Token.varNames (t :: tokens) = Token.varNames tokens := by
  rw [Token.varNames, List.filter_cons_of_neg (by simpa using h)]
  rfl

/-- A variable in front adds its name. -/
theorem Token.varNames_of_var {t : Token} (h : t.kind = .var) (tokens : List Token) :
    Token.varNames (t :: tokens) = t.name :: Token.varNames tokens := by
  rw [Token.varNames, List.filter_cons_of_pos (by simpa using h)]
  rfl

/-- Items without variables have none together. -/
theorem IsSequence.varNames {α : Type} {written : List Token → α → Prop} {tokens : List Token} {list : List α}
    (h : IsSequence written tokens list) (none_ : ∀ {taken a}, written taken a → Token.varNames taken = []) :
    Token.varNames tokens = [] := by
  induction h with
  | nil => rfl
  | cons first _ ih => rw [Token.varNames_append, none_ first, ih]; rfl

/-- A keyword is no variable. -/
theorem kind_ne_var_of_spells {t : Token} {words : List String} (h : t.spells words = true) : t.kind ≠ .var := by
  intro kind
  rw [Reader.not_spells (by rw [kind]; decide)] at h
  cases h

/-- A symbol is no variable. -/
theorem kind_ne_var_of_isSymbol {t : Token} {symbols : List String} (h : t.isSymbol symbols = true) :
    t.kind ≠ .var := by
  rw [Reader.kind_of_isSymbol h]
  decide

/-- No variable stands in a cell. -/
theorem IsCell.varNames {tokens : List Token} {cell : Cell} (h : IsCell tokens cell) :
    Token.varNames tokens = [] := by
  cases h with
  | undef spells => exact Token.varNames_of_ne (kind_ne_var_of_spells spells) []
  | resource is =>
    refine Token.varNames_of_ne ?_ []
    rcases Reader.kind_of_isResource is with kind | kind <;> rw [kind] <;> decide
  | literal is => exact Token.varNames_of_ne (by rw [is]; decide) []
  | signed isSign isNumber =>
    rw [Token.varNames_of_ne (kind_ne_var_of_isSymbol isSign)]
    refine Token.varNames_of_ne ?_ []
    rw [Reader.kind_of_isNumeric isNumber]
    decide

/-- **The variables among the tokens of a block are those of its header.** -/
theorem IsBlock.varNames {tokens : List Token} {block : Values} (h : IsBlock tokens block) :
    Token.varNames tokens = block.vars := by
  cases h with
  | @short keyword var opening closing tokens rows spells isVar opens sequence closes =>
    rw [Token.varNames_of_ne (kind_ne_var_of_spells spells), Token.varNames_of_var isVar,
      Token.varNames_of_ne (kind_ne_var_of_isSymbol opens), Token.varNames_append,
      sequence.varNames (fun row => by cases row with | cell cell => exact cell.varNames),
      Token.varNames_of_ne (kind_ne_var_of_isSymbol closes)]
    rfl
  | @long keyword left right opening closing vars tokens rows spells isLeft areVars isRight opens sequence closes =>
    have all : Token.varNames vars = vars.map Token.name := by
      rw [Token.varNames, List.filter_eq_self.mpr fun var member => by simpa using areVars var member]
    rw [Token.varNames_of_ne (kind_ne_var_of_spells spells), Token.varNames_of_ne (kind_ne_var_of_isSymbol isLeft),
      Token.varNames_append, Token.varNames_of_ne (kind_ne_var_of_isSymbol isRight),
      Token.varNames_of_ne (kind_ne_var_of_isSymbol opens), Token.varNames_append, all,
      sequence.varNames (fun row => by
        cases row with
        | cells opens cells closes =>
          rw [Token.varNames_of_ne (kind_ne_var_of_isSymbol opens), Token.varNames_append,
            cells.varNames IsCell.varNames, Token.varNames_of_ne (kind_ne_var_of_isSymbol closes)]
          rfl),
      Token.varNames_of_ne (kind_ne_var_of_isSymbol closes)]
    exact List.append_nil _

/-- **What is taken for the tokens of steps has their variables.** -/
theorem Respells.varNames {steps : List Step} {out : List Token} (h : Respells L steps out) :
    Token.varNames out = Token.varNames (steps.flatMap Step.tokens) := by
  induction h with
  | nil => rfl
  | @token t t' steps out like _ ih =>
    have alike := L.alike (L.ahead_of_like like)
    change _ = Token.varNames (t :: steps.flatMap Step.tokens)
    by_cases is : t.kind = .var
    · rw [Token.varNames_of_var is, Token.varNames_of_var (alike.kind.trans is), alike.name is, ih]
    · rw [Token.varNames_of_ne is, Token.varNames_of_ne (alike.kind ▸ is), ih]
  | block stands _ ih =>
    rw [List.flatMap_cons, Token.varNames_append, Token.varNames_append, ih, Step.tokens]
    rw [(L.writes stands).varNames, (L.reads stands).varNames, L.vars stands]

/-- **Tokens taken for others have the same variables.** -/
theorem Respelled.vars {tokens tokens' : List Token} (h : Respelled L tokens tokens') :
    Token.vars tokens' = Token.vars tokens := by
  obtain ⟨steps, rfl, respells⟩ := h
  exact congrArg List.eraseDups respells.varNames

/-- The text of two tokens has at least the space between them. -/
theorem spaced_cons_cons (t u : Token) (tokens : List Token) :
    (Token.spaced (t :: u :: tokens)).isEmpty = false := by
  unfold Token.spaced
  rw [List.map_cons, List.map_cons, Text.joined_cons_cons]
  cases t.text <;> rfl

/-- A block has more than one token. -/
theorem IsBlock.exists_two {tokens : List Token} {block : Values} (h : IsBlock tokens block) :
    ∃ t u others, tokens = t :: u :: others := by
  cases h <;> exact ⟨_, _, _, rfl⟩

/-- Tokens taken for others leave no text where those leave none. -/
theorem Respelled.isEmpty {tokens tokens' : List Token} (h : Respelled L tokens tokens') :
    (Token.spaced tokens').isEmpty = (Token.spaced tokens).isEmpty := by
  obtain ⟨steps, rfl, respells⟩ := h
  cases respells with
  | nil => rfl
  | @token t t' steps out like others =>
    cases others with
    | nil =>
      change (Token.spaced [t']).isEmpty = (Token.spaced [t]).isEmpty
      unfold Token.spaced
      rw [List.map_singleton, List.map_singleton, Text.joined_singleton, Text.joined_singleton]
      exact (L.alike (L.ahead_of_like like)).blank
    | token => exact (spaced_cons_cons ..).trans (spaced_cons_cons ..).symm
    | block stands =>
      obtain ⟨_, _, _, rfl⟩ := (L.writes stands).exists_two
      obtain ⟨_, _, _, rfl⟩ := (L.reads stands).exists_two
      exact (spaced_cons_cons ..).trans (spaced_cons_cons ..).symm
  | block stands =>
    obtain ⟨_, _, _, rfl⟩ := (L.writes stands).exists_two
    obtain ⟨_, _, _, rfl⟩ := (L.reads stands).exists_two
    exact (spaced_cons_cons ..).trans (spaced_cons_cons ..).symm

/-- Like texts are empty together. -/
theorem TextLike.isEmpty {text text' : Text} (h : TextLike L text text') : text'.isEmpty = text.isEmpty := by
  cases h with
  | spaced respelled => exact respelled.isEmpty
  | @call name name' => cases name.text <;> cases name'.text <;> rfl
  | named => rfl

/-! ## Pieces -/

/-- The blocks of groups are those of each, in order. -/
theorem Group.blocksOfAll_append (first second : List Group) :
    Group.blocksOfAll (first ++ second) = Group.blocksOfAll first ++ Group.blocksOfAll second := by
  induction first with
  | nil => rfl
  | cons group first ih => rw [List.cons_append, Group.blocksOfAll, Group.blocksOfAll, ih, List.append_assoc]

/-- The blocks of pieces are those of the pieces put together. -/
theorem Scanned.blocks_concat (pieces : List Scanned) :
    pieces.flatMap Scanned.blocks = (Scanned.concat pieces).blocks := by
  induction pieces with
  | nil => rfl
  | cons piece pieces ih =>
    rw [List.flatMap_cons, ih]
    exact (Group.blocksOfAll_append _ _).symm

/-- Like pieces put together are alike. -/
theorem Scanned.Like.concat {pieces pieces' : List Scanned} (h : List.Forall₂ (Scanned.Like L) pieces pieces') :
    Scanned.Like L (Scanned.concat pieces) (Scanned.concat pieces') := by
  induction h with
  | nil => exact ⟨.nil, trivial⟩
  | cons first _ ih =>
    refine ⟨first.tokens.append ih.tokens, Group.likeAll_iff.mpr ?_⟩
    exact List.rel_append (Group.likeAll_iff.mp first.patterns) (Group.likeAll_iff.mp ih.patterns)

/-- **Like pieces are kept as like expressions.** -/
theorem Scanned.Like.expression {scanned scanned' : Scanned} (h : Scanned.Like L scanned scanned') :
    scanned.expression.Like L scanned'.expression :=
  ⟨.spaced h.tokens, h.tokens.vars.symm, h.patterns⟩

namespace Reader

variable {depth depth' : Option Inside} {named : Bool}

/-- The group of a test is read inside a region, so its blocks are kept. -/
theorem existsGroup_tracks (hd : DepthTracks L.lenient depth depth') :
    Tracks L [] Group.blocks (Group.Like L) (existsGroup depth) (existsGroup depth') :=
  .ifAccept (.spells _) (.word fun _ => group_tracks hd) (.word fun _ => group_tracks hd)

/-- A test is its keywords and its group. -/
theorem existsTest_tracks (hd : DepthTracks L.lenient depth depth') :
    Tracks L [] Scanned.blocks (Scanned.Like L) (existsTest depth) (existsTest depth') :=
  (taking_tracks (existsGroup_tracks hd)).bind fun related =>
    .pure (List.append_nil _).symm ⟨related.1, related.2, trivial⟩

/-- A test takes its keyword. -/
theorem Progress.existsTest {P : Scanned → Prop} : Progress P (Reader.existsTest depth) := by
  have group : Progress (fun _ => True) (Reader.existsGroup depth) := .of_second fun _ => Progress.require.of_first
  have taking : Progress (fun _ => True) (Reader.taking (Reader.existsGroup depth)) := by
    intro tokens rest taken read _
    unfold Reader.taking at read
    dsimp only at read
    split at read
    · next first =>
      obtain ⟨rfl, rfl⟩ := Reading.done.inj read
      exact group first trivial
    · cases read
  exact taking.of_first

/-- What closes a bracket, a like token closes. -/
theorem isCloser_respects : Respects isCloser := .isSymbol _

/-- A piece is a test, or any token that closes no bracket. -/
theorem piece_tracks (hd : DepthTracks L.lenient depth depth') :
    Tracks L [] Scanned.blocks (Scanned.Like L) (piece depth) (piece depth') :=
  .ifNextTwo (.spells _) (.isSymbol _) (notAlone_spells (by decide)) (notEnding_isSymbol (by decide))
    (existsTest_tracks hd)
    (.open? hd
      (fun opening inner => inner.brackets.bind fun related => .andThen (shut_tracks isCloser_respects) fun closing =>
        .pure rfl ⟨((Respelled.singleton opening.like).append related.tokens).append (.singleton closing.1),
          related.patterns⟩)
      (.require (.const true) fun accepted => .pure rfl ⟨.singleton accepted.1, trivial⟩))

/-- A piece takes a token. -/
theorem Progress.piece {P : Scanned → Prop} : Progress P (Reader.piece depth) :=
  .choice .existsTest (Progress.open?.bind fun
    | some _ => .inl rfl
    | none => .inr Progress.require.of_first)

/-- **Brackets in an expression track**: their pieces do, one level deeper. -/
theorem brackets_tracks (hd : DepthTracks L.lenient depth depth') :
    Tracks L [] Scanned.blocks (Scanned.Like L) (brackets depth) (brackets depth') :=
  (manyUntil_tracks isCloser_respects (piece_tracks hd) .piece .piece).bind fun related =>
    .pure (Scanned.blocks_concat _) (.concat related)

/-- An expression goes on until a bracket closes it, or its name follows. -/
theorem outerPiece_tracks (hd : DepthTracks L.lenient depth depth') :
    Tracks L [] (fun found => (found.map Scanned.blocks).getD []) (Option.Rel (Scanned.Like L))
      (outerPiece depth named) (outerPiece depth' named) :=
  .ifNext (.or (.isSymbol _) (.and (.const named) (.spells _))) (.pure rfl .none)
    (.ifNext (.isSymbol _) (refuse_tracks _)
      (piece_tracks hd).found)

/-- A piece that is found has taken a token. -/
theorem Progress.outerPiece : Progress Found (Reader.outerPiece depth named) :=
  .choice (.pure nofun) (.choice (.refuse _) Progress.piece.of_first)

/-- **Like tokens have like expressions**: their texts differ where the tokens do. -/
theorem expression_tracks (hd : DepthTracks L.lenient depth depth') :
    Tracks L [] Expression.blocks (Expression.Like L) (expression depth named) (expression depth' named) :=
  (many_tracks (outerPiece_tracks hd) .outerPiece .outerPiece).bind fun related =>
    .pure (Scanned.blocks_concat _) (Scanned.Like.concat related).expression

/-- Like expressions have a text together. -/
theorem Expression.Like.isEmpty {expression expression' : Expression} (h : expression.Like L expression') :
    expression'.text.isEmpty = expression.text.isEmpty := by
  obtain ⟨text, vars, patterns⟩ := expression
  obtain ⟨text', vars', patterns'⟩ := expression'
  exact TextLike.isEmpty h.1

/-- An expression that must not be empty is missing in both runs or in neither. -/
theorem someExpression_tracks (hd : DepthTracks L.lenient depth depth') :
    Tracks L [] Expression.blocks (Expression.Like L) (someExpression depth named)
      (someExpression depth' named) :=
  (expression_tracks hd).bind fun related => by
    rw [Expression.Like.isEmpty related]
    split
    · exact refuse_tracks _
    · exact .pure rfl related

/-! ## Calls and constraints -/

/-- What names a function, a like token names. -/
theorem isCallable_respects : Respects isCallable := by
  refine .or (fun t t' like => ?_) .isResource
  rw [like.kind]
  by_cases is : t.kind = .keyword
  · rw [like.upper is]
  · rw [decide_eq_false is, Bool.false_and, Bool.false_and]

/-- No token that is looked at alone names a function. -/
theorem notAlone_isCallable : NotAlone isCallable := by
  intro token holds
  rcases (Bool.or_eq_true _ _).mp holds with word | name
  · obtain ⟨kind, free⟩ := (Bool.and_eq_true _ _).mp word
    refine notAlone_of_keyword (of_decide_eq_true kind) (Bool.eq_false_iff.mpr fun spells => ?_)
    obtain ⟨spelt, is, member⟩ := (Option.any_eq_true _ _).mp spells
    obtain rfl := List.mem_singleton.mp (List.contains_iff_mem.mp member)
    unfold Token.word? at is
    rw [if_pos (of_decide_eq_true kind), Option.some.injEq] at is
    split at is
    · cases is
    · rw [is] at free
      cases free
  · have kind := kind_of_isResource name
    refine (Bool.or_eq_false_iff ..).mpr ⟨not_spells (by rcases kind with kind | kind <;> rw [kind] <;> decide) _, ?_⟩
    refine Bool.eq_false_iff.mpr fun closes => ?_
    rw [kind_of_isSymbol closes] at kind
    rcases kind with other | other <;> cases other

/-- Whether a call comes next is the same in both runs. -/
theorem startsCall_tracks : Plain L Eq startsCall startsCall :=
  nextTwo_tracks isCallable_respects (.isSymbol _) notAlone_isCallable (notEnding_isSymbol (by decide))

/-- A call is kept as its text, the name of the function in front. -/
theorem functionCall_tracks (hd : DepthTracks L.lenient depth depth') :
    Tracks L [] Expression.blocks (Expression.Like L) (functionCall depth) (functionCall depth') :=
  .require isCallable_respects fun name => .symbol fun _ =>
    (expression_tracks hd).bind fun {arguments arguments'} related => .symbol fun _ => by
      obtain ⟨text, vars, patterns⟩ := arguments
      obtain ⟨text', vars', patterns'⟩ := arguments'
      exact .pure rfl ⟨.call name.1 related.1, related.2.1, related.2.2⟩

/-- Whether a constraint comes next is the same in both runs. -/
theorem startsConstraint_tracks : Plain L Eq startsConstraint startsConstraint :=
  .same (next_tracks (.or (.isSymbol _) (.spells _))) fun _ => .same startsCall_tracks fun _ => .pure rfl rfl

/-- A constraint is a test, an expression in brackets or a call. -/
theorem constraint_tracks (hd : DepthTracks L.lenient depth depth') :
    Tracks L [] Expression.blocks (Expression.Like L) (constraint depth) (constraint depth') :=
  .ifAccept (.isSymbol _)
    ((someExpression_tracks hd).bind fun related => .symbol fun _ => .pure rfl related)
    (.ifNext (.spells _)
      ((existsTest_tracks hd).bind fun related => .pure rfl (Scanned.Like.expression related))
      (.same startsCall_tracks fun
        | true => functionCall_tracks hd
        | false => refuse_tracks _))

/-- An expression with its name: the name is the same in both runs. -/
theorem namedExpression_tracks (hd : DepthTracks L.lenient depth depth') :
    Tracks L [] (fun pair => pair.1.blocks) (fun pair pair' => pair.1.Like L pair'.1 ∧ pair.2 = pair'.2)
      (namedExpression depth) (namedExpression depth') :=
  (someExpression_tracks hd).bind fun related => .word fun _ => .same variableName_tracks fun _ =>
    .symbol fun _ => .pure rfl ⟨related, rfl⟩

/-- A call takes its name. -/
theorem Progress.functionCall {P : Expression → Prop} : Progress P (Reader.functionCall depth) :=
  Progress.require.of_first

/-- A constraint takes a token. -/
theorem Progress.constraint {P : Expression → Prop} : Progress P (Reader.constraint depth) :=
  .orElse' (.choice Progress.existsTest.of_first (.choice .functionCall (.refuse _)))

/-! ## Selections -/

/-- The blocks of a column's expression. -/
def Projection.blocks : Projection → List Values
  | .var _ => []
  | .aliased expression _ => expression.blocks

/-- A projection is a variable, or an expression with a name in brackets. -/
theorem projection?_tracks (hd : DepthTracks L.lenient depth depth') :
    Tracks L [] (fun found => (found.map Projection.blocks).getD []) (Option.Rel (Projection.Like L))
      (projection? depth) (projection? depth') :=
  .accept? (.isKind .var) (fun accepted => .pure rfl (.some accepted.name.symm))
    (.ifAccept (.isSymbol _) ((namedExpression_tracks hd).bind fun related => .pure rfl (.some related))
      (.pure rfl .none))

/-- A projection that is found has taken a token. -/
theorem Progress.projection? : Progress Found (Reader.projection? depth) :=
  .orElse (.orElse' (.pure nofun))

/-- What becomes of duplicates is the same in both runs. -/
theorem duplicates_tracks : Plain L Eq duplicates duplicates :=
  .ifAccept (.spells _) (.pure rfl rfl) (.ifAccept (.spells _) (.pure rfl rfl) (.pure rfl rfl))

/-- Related lists are empty together. -/
theorem isEmpty_of_forall₂ {α β : Type} {V : α → β → Prop} {list : List α} {list' : List β}
    (h : List.Forall₂ V list list') : list'.isEmpty = list.isEmpty := by
  cases h <;> rfl

/-- A selection is a star, or projections of which there is one. -/
theorem selection_tracks (hd : DepthTracks L.lenient depth depth') :
    Plain L (Selection.Like L) (selection depth) (selection depth') :=
  .word fun _ => .same duplicates_tracks fun _ => .ifAccept (.isSymbol _) (.pure rfl ⟨trivial, rfl⟩)
    (.andThen
      (many_plain (within_tracks (projection?_tracks (L := L.within .projection) hd)) Progress.projection?
        Progress.projection?)
      fun list => by
        rw [isEmpty_of_forall₂ list]
        split
        · exact refuse_tracks _
        · exact .pure rfl ⟨Projection.likeAll_iff.mpr list, rfl⟩)

/-! ## Grouping and order -/

theorem spaced_singleton (t : Token) : Token.spaced [t] = t.text := Text.joined_singleton _ _

/-- The expression that a variable is. -/
theorem Accepted.expression {t t' : Token} (h : Accepted L (·.kind = .var) t t') :
    Expression.Like L ⟨t.text, [t.name], []⟩ ⟨t'.text, [t'.name], []⟩ := by
  refine ⟨?_, by rw [h.name], trivial⟩
  rw [← spaced_singleton t, ← spaced_singleton t']
  exact .spaced (.singleton h.1)

/-- A condition keeps the text in its brackets, and the name behind it. -/
theorem groupCondition?_tracks (hd : DepthTracks L.lenient depth depth') :
    Tracks L [] (fun found => (found.map Expression.blocks).getD []) (Option.Rel (Expression.Like L))
      (groupCondition? depth) (groupCondition? depth') :=
  .accept? (.isKind .var) (fun accepted => .pure rfl (.some accepted.expression))
    (.ifAccept (.isSymbol _)
      ((expression_tracks hd).bind fun {inner inner'} related =>
        .ifAccept (.spells _)
          (.require (.isKind .var) fun name => .symbol fun _ => by
            obtain ⟨text, vars, patterns⟩ := inner
            obtain ⟨text', vars', patterns'⟩ := inner'
            refine .pure rfl (.some ⟨.named name.1 related.1, ?_, related.2.2⟩)
            rw [name.name]
            exact congrArg (fun vars => (vars ++ [_]).eraseDups) related.2.1)
          (.symbol fun _ => .pure rfl (.some related)))
      (.same startsCall_tracks fun
        | true => (functionCall_tracks hd).found
        | false => .pure rfl .none))

/-- A condition that is found has taken a token. -/
theorem Progress.groupCondition? : Progress Found (Reader.groupCondition? depth) :=
  .orElse (.orElse' (.choice Progress.functionCall.of_first (.pure nofun)))

/-- A key keeps whether it descends. -/
theorem orderKey?_tracks (hd : DepthTracks L.lenient depth depth') :
    Tracks L [] (fun found => (found.map fun key => key.expression.blocks).getD [])
      (Option.Rel (OrderKey.Like L)) (orderKey? depth) (orderKey? depth') :=
  .accept? (.spells _)
    (fun accepted => .symbol fun _ => (expression_tracks hd).bind fun related => .symbol fun _ =>
      .pure rfl (.some ⟨related, (Respects.spells _ accepted.alike).symm⟩))
    (.accept? (.isKind .var) (fun accepted => .pure rfl (.some ⟨accepted.expression, rfl⟩))
      (.same startsConstraint_tracks fun
        | true => (constraint_tracks hd).bind fun related => .pure rfl (.some ⟨related, rfl⟩)
        | false => .pure rfl .none))

/-- A key that is found has taken a token. -/
theorem Progress.orderKey? : Progress Found (Reader.orderKey? depth) :=
  .orElse (.orElse (.choice Progress.constraint.of_first (.pure nofun)))

/-- A constraint is read where one starts. -/
theorem constraint?_tracks (hd : DepthTracks L.lenient depth depth') :
    Tracks L [] (fun found => (found.map Expression.blocks).getD []) (Option.Rel (Expression.Like L))
      (constraint? depth) (constraint? depth') :=
  .same startsConstraint_tracks fun
    | true => (constraint_tracks hd).found
    | false => .pure rfl .none

/-- A constraint that is found has taken a token. -/
theorem Progress.constraint? : Progress Found (Reader.constraint? depth) :=
  .choice Progress.constraint.of_first (.pure nofun)

/-- A keyword with `BY` behind it is two like tokens. -/
theorem keywordBy_tracks (keyword : String) : Plain L Eq (keywordBy keyword) (keywordBy keyword) :=
  .ifAccept (.spells _) (.word fun _ => .pure rfl rfl) (.pure rfl rfl)

/-- **A clause tracks if its items do**: they go on until none is found. -/
theorem clause_tracks {α β : Type} {V : α → β → Prop} {keyword : Reader Bool} {missing : Expected}
    {item : Reader (Option α)} {item' : Reader (Option β)} (hk : Plain L Eq keyword keyword)
    (h : Plain L (Option.Rel V) item item') (progress : Progress Found item) (progress' : Progress Found item') :
    Plain L (List.Forall₂ V) (clause keyword missing item) (clause keyword missing item') :=
  .same hk fun
    | true => .andThen (many_plain h progress progress') fun list => by
      rw [isEmpty_of_forall₂ list]
      split
      · exact refuse_tracks _
      · exact .pure rfl list
    | false => .pure rfl .nil

/-! ## Slices -/

/-- What is a number of digits, a like token is. -/
theorem isDigits_respects : Respects isDigits :=
  .isText (by decide) (by decide) (fun token => Text.isDigits token.text) fun same => by rw [same]

/-- A slice keeps the text of its keyword and its number. -/
theorem slice?_tracks (keyword : String) : Plain L (Option.Rel (Slice.Like L)) (slice? keyword) (slice? keyword) :=
  .accept? (.spells _)
    (fun keyword => .require isDigits_respects fun number => by
      have kind := of_decide_eq_true ((Bool.and_eq_true _ _).mp number.2).1
      rw [(number.twin (by rw [kind]; decide) (by rw [kind]; decide)).text]
      split
      · exact .pure rfl (.some ⟨⟨_, _, keyword.1, rfl, rfl⟩, rfl, rfl⟩)
      · exact .stop fun _ => .unreadable _)
    (.pure rfl .none)

/-- The slices come in either order, in both runs in the same. -/
theorem slices_tracks :
    Plain L (fun pair pair' => Option.Rel (Slice.Like L) pair.1 pair'.1 ∧ Option.Rel (Slice.Like L) pair.2 pair'.2)
      slices slices :=
  .andThen (slice?_tracks _) fun
    | .some limit => .andThen (slice?_tracks _) fun offset => .pure rfl ⟨.some limit, offset⟩
    | .none => .andThen (slice?_tracks _) fun
      | .some offset => .andThen (slice?_tracks _) fun limit => .pure rfl ⟨limit, .some offset⟩
      | .none => .pure rfl ⟨.none, .none⟩

/-- **Like tokens have like modifiers**, clause by clause. -/
theorem modifiers_tracks (hd : DepthTracks L.lenient depth depth') :
    Plain L (Modifiers.Like L) (modifiers depth) (modifiers depth') :=
  .andThen
    (clause_tracks (keywordBy_tracks _) (within_tracks (groupCondition?_tracks (L := L.within .grouping) hd))
      Progress.groupCondition? Progress.groupCondition?)
    fun groupBy => .andThen
      (clause_tracks (accept_tracks (.spells _))
        (within_tracks (constraint?_tracks (L := L.within .having) hd)) Progress.constraint? Progress.constraint?)
      fun having => .andThen
        (clause_tracks (keywordBy_tracks _) (within_tracks (orderKey?_tracks (L := L.within .ordering) hd))
          Progress.orderKey? Progress.orderKey?)
        fun orderBy => .andThen slices_tracks fun slices =>
          .pure rfl ⟨Expression.likeAll_iff.mpr groupBy, Expression.likeAll_iff.mpr having,
            OrderKey.likeAll_iff.mpr orderBy, slices.1, slices.2⟩

end Reader

end QuerySignature
