import QuerySignature.Proofs.Origin.Queries
import QuerySignature.Proofs.Paired.Readers

/-!
# Proofs/Origin/Bracketed — where the brackets of an expression may be empty

An expression ends before its closing bracket, or before `AS`, and may have no token at all; it is for the rule around it
to ask for one.  A column, an assignment and a constraint do so (`IsNamed`, `IsBracketed`); the arguments of a call, a
condition of `GROUP BY` and a sort key behind its direction do not (`IsCall`, `IsGroupCondition`, `IsOrderKey`).  Each
rule takes tokens of its form, so wherever an expression stands in a query, or in a group that is read and dropped, it
is written in that form (`parseTokens_bracketed`).
-/

namespace QuerySignature

variable {tokens whole : List Token}

/-! ## Forms -/

/-- **The tokens write the expression**: its text joins theirs, and its variables are those among them. -/
def Expression.JoinOf (expression : Expression) (tokens : List Token) : Prop :=
  expression.text = Token.spaced tokens ∧ expression.vars = Token.vars tokens

/-- **An expression in brackets**, with a token at least. -/
inductive IsBracketed : List Token → Expression → Prop where
  | brackets {opening closing : Token} {inner : List Token} {expression : Expression} :
      opening.isSymbol ["("] = true → inner ≠ [] → expression.JoinOf inner → closing.isSymbol [")"] = true →
      IsBracketed (opening :: inner ++ [closing]) expression

/-- **An expression and its name in brackets**, with a token at least in front of `AS`. -/
inductive IsNamed : List Token → Expression → Text → Prop where
  | named {opening as name closing : Token} {inner : List Token} {expression : Expression} :
      opening.isSymbol ["("] = true → inner ≠ [] → expression.JoinOf inner → as.spells ["AS"] = true →
      name.kind = .var → closing.isSymbol [")"] = true →
      IsNamed (opening :: inner ++ [as, name, closing]) expression name.name

/-- **A call**, perhaps with no arguments. -/
inductive IsCall : List Token → Expression → Prop where
  | call {name opening closing : Token} {inner : List Token} {arguments : Expression} :
      Reader.isCallable name = true → opening.isSymbol ["("] = true → arguments.JoinOf inner →
      closing.isSymbol [")"] = true → IsCall (name :: opening :: inner ++ [closing])
        ⟨name.text ++ '(' :: arguments.text ++ [')'], arguments.vars, arguments.patterns⟩

/-- **A constraint**: an expression in brackets, a test or a call. -/
inductive IsConstraint : List Token → Expression → Prop where
  | brackets {tokens : List Token} {expression : Expression} : IsBracketed tokens expression →
      IsConstraint tokens expression
  | test {first : Token} {others : List Token} {expression : Expression} : first.spells ["NOT", "EXISTS"] = true →
      expression.JoinOf (first :: others) → IsConstraint (first :: others) expression
  | call {tokens : List Token} {expression : Expression} : IsCall tokens expression → IsConstraint tokens expression

/-- **A condition of `GROUP BY`**: a variable, an expression in brackets, perhaps empty and perhaps named, or a call. -/
inductive IsGroupCondition : List Token → Expression → Prop where
  | var {token : Token} : token.kind = .var → IsGroupCondition [token] ⟨token.text, [token.name], []⟩
  | brackets {opening closing : Token} {inner : List Token} {expression : Expression} :
      opening.isSymbol ["("] = true → expression.JoinOf inner → closing.isSymbol [")"] = true →
      IsGroupCondition (opening :: inner ++ [closing]) expression
  | named {opening as name closing : Token} {inner : List Token} {expression : Expression} :
      opening.isSymbol ["("] = true → expression.JoinOf inner → as.spells ["AS"] = true → name.kind = .var →
      closing.isSymbol [")"] = true → IsGroupCondition (opening :: inner ++ [as, name, closing])
        ⟨'(' :: expression.text ++ " AS ".toList ++ name.text ++ [')'],
          (expression.vars ++ [name.name]).eraseDups, expression.patterns⟩
  | call {tokens : List Token} {expression : Expression} : IsCall tokens expression →
      IsGroupCondition tokens expression

/-- **A sort key**: a direction and brackets, perhaps empty, a variable or a constraint. -/
inductive IsOrderKey : List Token → OrderKey → Prop where
  | directed {direction opening closing : Token} {inner : List Token} {expression : Expression} :
      direction.spells ["ASC", "DESC"] = true → opening.isSymbol ["("] = true → expression.JoinOf inner →
      closing.isSymbol [")"] = true →
      IsOrderKey (direction :: opening :: inner ++ [closing]) ⟨expression, direction.spells ["DESC"]⟩
  | var {token : Token} : token.kind = .var → IsOrderKey [token] ⟨⟨token.text, [token.name], []⟩, false⟩
  | constraint {tokens : List Token} {expression : Expression} : IsConstraint tokens expression →
      IsOrderKey tokens ⟨expression, false⟩

/-- **A filter**: its keyword and a constraint. -/
inductive IsFilter : List Token → Expression → Prop where
  | filter {keyword : Token} {tokens : List Token} {expression : Expression} : keyword.spells ["FILTER"] = true →
      IsConstraint tokens expression → IsFilter (keyword :: tokens) expression

/-- **An assignment**: its keyword, and an expression and its name in brackets. -/
inductive IsAssignment : List Token → Expression → Text → Prop where
  | bind {keyword : Token} {tokens : List Token} {expression : Expression} {name : Text} :
      keyword.spells ["BIND"] = true → IsNamed tokens expression name → IsAssignment (keyword :: tokens) expression name

/-- What a pattern is that holds an expression; the others may be anything. -/
def Element.Holds (tokens : List Token) : Element → Prop
  | .filter expression => IsFilter tokens expression
  | .bind expression name => IsAssignment tokens expression name
  | _ => True

/-! ## Rules take tokens of their form -/

namespace Reader

variable {α β : Type} {brackets : Nat} {named : Bool} {rest : List Token}

/-- A token that is required, and a reader behind it. -/
theorem exists_required {expected : Expected} {p : Token → Bool} {N : Token → Reader β} {b : β}
    (read : (require expected p >>= N).read tokens = .done b rest) :
    ∃ token others, tokens = token :: others ∧ p token = true ∧ (N token).read others = .done b rest := by
  obtain ⟨token, others, required, further⟩ := bind_done.mp read
  obtain ⟨rfl, holds⟩ := require_done.mp required
  exact ⟨token, others, rfl, holds, further⟩

/-- Behind a token that may stand there, it was taken or it was not. -/
theorem exists_accepted {p : Token → Bool} {N : Bool → Reader β} {b : β}
    (read : (accept p >>= N).read tokens = .done b rest) :
    (∃ token others, tokens = token :: others ∧ p token = true ∧ (N true).read others = .done b rest) ∨
      (N false).read tokens = .done b rest := by
  obtain ⟨_ | _, between, accepted, further⟩ := bind_done.mp read
  · obtain ⟨rfl, -⟩ := accept_false.mp accepted
    exact .inr further
  · obtain ⟨token, rfl, holds⟩ := accept_true.mp accepted
    exact .inl ⟨token, between, rfl, holds, further⟩

/-- A bracket that is required behind what is read, which is the value. -/
theorem exists_closed {a b : α} (read : (symbol ")" >>= fun _ => pure a).read tokens = .done b rest) :
    ∃ closing, tokens = closing :: rest ∧ closing.isSymbol [")"] = true ∧ a = b := by
  obtain ⟨closing, others, rfl, closes, given⟩ := exists_required read
  obtain ⟨rfl, rfl⟩ := pure_done.mp given
  exact ⟨closing, rfl, closes, rfl⟩

theorem startsCall_takes {starts : Bool} (read : startsCall.read tokens = .done starts rest) : tokens = rest :=
  (Reading.done.inj read).2

theorem startsConstraint_takes {starts : Bool} (read : startsConstraint.read tokens = .done starts rest) :
    tokens = rest := by
  obtain ⟨ahead, _, looked, further⟩ := bind_done.mp read
  obtain ⟨-, rfl⟩ := next_done.mp looked
  obtain ⟨called, _, call, given⟩ := bind_done.mp further
  obtain rfl := startsCall_takes call
  exact (pure_done.mp given).2

theorem expression_writes :
    Writes (fun taken expression => expression.JoinOf taken) (expression (inside brackets) named) := by
  intro tokens found rest read
  obtain ⟨scanned, rfl, is⟩ := expression_isRead (inside_rises brackets) read
  exact ⟨scanned.tokens, is.whole, rfl, rfl⟩

/-- An expression that must not be empty has a token. -/
theorem someExpression_writes : Writes (fun taken expression => taken ≠ [] ∧ expression.JoinOf taken)
    (someExpression (inside brackets) named) := by
  intro tokens found rest read
  obtain ⟨_, between, expressionRead, given⟩ := bind_done.mp read
  split at given
  · exact (refuse_done.mp given).elim
  · next some_ =>
    obtain ⟨rfl, rfl⟩ := pure_done.mp given
    obtain ⟨taken, rfl, joins⟩ := expression_writes expressionRead
    refine ⟨taken, rfl, ?_, joins⟩
    rintro rfl
    rw [joins.1] at some_
    exact some_ rfl

theorem namedExpression_writes :
    Writes (fun taken pair => ∀ opening : Token, opening.isSymbol ["("] = true → IsNamed (opening :: taken) pair.1 pair.2)
      (namedExpression (inside brackets)) := by
  intro tokens pair rest read
  obtain ⟨expression, _, expressionRead, behind⟩ := bind_done.mp read
  obtain ⟨inner, rfl, some_, joins⟩ := someExpression_writes expressionRead
  obtain ⟨as, _, rfl, isAs, behindAs⟩ := exists_required behind
  obtain ⟨name, _, nameRead, behindName⟩ := bind_done.mp behindAs
  obtain ⟨token, _, rfl, isName, given⟩ := exists_required nameRead
  obtain ⟨rfl, rfl⟩ := pure_done.mp given
  obtain ⟨closing, rfl, closes, rfl⟩ := exists_closed behindName
  exact ⟨inner ++ [as, token, closing], by simp, fun opening opens =>
    .named opens some_ joins isAs (of_decide_eq_true isName) closes⟩

theorem functionCall_writes : Writes IsCall (functionCall (inside brackets)) := by
  intro tokens found rest read
  obtain ⟨name, _, rfl, callable, behindName⟩ := exists_required read
  obtain ⟨opening, _, rfl, opens, behindOpening⟩ := exists_required behindName
  obtain ⟨arguments, _, argumentsRead, behind⟩ := bind_done.mp behindOpening
  obtain ⟨inner, rfl, joins⟩ := expression_writes argumentsRead
  obtain ⟨closing, rfl, closes, rfl⟩ := exists_closed behind
  exact ⟨name :: opening :: inner ++ [closing], by simp, .call callable opens joins closes⟩

/-- A test has a token, and is written by its tokens. -/
theorem existsTest_writes : Writes (fun taken scanned => taken ≠ [] ∧ scanned.tokens = taken)
    (existsTest (inside brackets)) := by
  intro tokens scanned rest read
  obtain ⟨taken, rfl⟩ := exists_taken read
  obtain ⟨pair, _, groupRead, given⟩ := bind_done.mp read
  obtain ⟨rfl, rfl⟩ := pure_done.mp given
  obtain ⟨-, same⟩ := taking_done groupRead
  refine ⟨taken, rfl, ?_, same.trans (gone_append taken _)⟩
  rintro rfl
  exact absurd (Progress.existsTest (P := fun _ => True) read trivial) (Nat.lt_irrefl _)

theorem constraint_writes : Writes IsConstraint (constraint (inside brackets)) := by
  intro tokens found rest read
  rcases exists_accepted read with ⟨opening, _, rfl, opens, chosen⟩ | chosen
  · obtain ⟨expression, _, expressionRead, behind⟩ := bind_done.mp chosen
    obtain ⟨inner, rfl, some_, joins⟩ := someExpression_writes expressionRead
    obtain ⟨closing, rfl, closes, rfl⟩ := exists_closed behind
    exact ⟨opening :: inner ++ [closing], by simp, .brackets (.brackets opens some_ joins closes)⟩
  · obtain ⟨_ | _, between, looked, further⟩ := bind_done.mp chosen
    · obtain ⟨-, rfl⟩ := next_done.mp looked
      obtain ⟨_ | _, between, called, callRead⟩ := bind_done.mp further
      · exact (refuse_done.mp callRead).elim
      · obtain rfl := startsCall_takes called
        obtain ⟨taken, rfl, call⟩ := functionCall_writes callRead
        exact ⟨taken, rfl, .call call⟩
    · obtain ⟨ahead, rfl⟩ := next_done.mp looked
      obtain ⟨scanned, _, testRead, given⟩ := bind_done.mp further
      obtain ⟨rfl, rfl⟩ := pure_done.mp given
      obtain ⟨taken, rfl, some_, same⟩ := existsTest_writes testRead
      obtain ⟨first, others, rfl⟩ := List.exists_cons_of_ne_nil some_
      exact ⟨first :: others, rfl, .test ahead (by rw [← same]; exact ⟨rfl, rfl⟩)⟩

theorem groupCondition?_writes :
    Writes (fun taken found => Given (IsGroupCondition taken) found) (groupCondition? (inside brackets)) := by
  intro tokens found rest read
  obtain ⟨_ | token, between, accepted, chosen⟩ := bind_done.mp read
  · obtain ⟨rfl, -⟩ := accept?_none.mp accepted
    rcases exists_accepted chosen with ⟨opening, _, rfl, opens, further⟩ | further
    · obtain ⟨expression, _, expressionRead, behind⟩ := bind_done.mp further
      obtain ⟨inner, rfl, joins⟩ := expression_writes expressionRead
      rcases exists_accepted behind with ⟨as, _, rfl, isAs, ending⟩ | ending
      · obtain ⟨name, _, rfl, isName, closed⟩ := exists_required ending
        obtain ⟨closing, rfl, closes, rfl⟩ := exists_closed closed
        exact ⟨opening :: inner ++ [as, name, closing], by simp,
          .named opens joins isAs (of_decide_eq_true isName) closes⟩
      · obtain ⟨closing, rfl, closes, rfl⟩ := exists_closed ending
        exact ⟨opening :: inner ++ [closing], by simp, .brackets opens joins closes⟩
    · obtain ⟨_ | _, between, called, ending⟩ := bind_done.mp further
      · obtain ⟨rfl, rfl⟩ := pure_done.mp ending
        obtain rfl := startsCall_takes called
        exact ⟨[], rfl, trivial⟩
      · obtain rfl := startsCall_takes called
        obtain ⟨call, _, callRead, given⟩ := bind_done.mp ending
        obtain ⟨rfl, rfl⟩ := pure_done.mp given
        obtain ⟨taken, rfl, isCall⟩ := functionCall_writes callRead
        exact ⟨taken, rfl, .call isCall⟩
  · obtain ⟨rfl, isVar⟩ := accept?_some.mp accepted
    obtain ⟨rfl, rfl⟩ := pure_done.mp chosen
    exact ⟨[token], rfl, .var (of_decide_eq_true isVar)⟩

theorem orderKey?_writes :
    Writes (fun taken found => Given (IsOrderKey taken) found) (orderKey? (inside brackets)) := by
  intro tokens found rest read
  obtain ⟨_ | direction, between, accepted, chosen⟩ := bind_done.mp read
  · obtain ⟨rfl, -⟩ := accept?_none.mp accepted
    obtain ⟨_ | token, between, accepted, further⟩ := bind_done.mp chosen
    · obtain ⟨rfl, -⟩ := accept?_none.mp accepted
      obtain ⟨_ | _, between, starts, ending⟩ := bind_done.mp further
      · obtain rfl := startsConstraint_takes starts
        obtain ⟨rfl, rfl⟩ := pure_done.mp ending
        exact ⟨[], rfl, trivial⟩
      · obtain rfl := startsConstraint_takes starts
        obtain ⟨expression, _, constraintRead, given⟩ := bind_done.mp ending
        obtain ⟨rfl, rfl⟩ := pure_done.mp given
        obtain ⟨taken, rfl, isConstraint⟩ := constraint_writes constraintRead
        exact ⟨taken, rfl, .constraint isConstraint⟩
    · obtain ⟨rfl, isVar⟩ := accept?_some.mp accepted
      obtain ⟨rfl, rfl⟩ := pure_done.mp further
      exact ⟨[token], rfl, .var (of_decide_eq_true isVar)⟩
  · obtain ⟨rfl, directs⟩ := accept?_some.mp accepted
    obtain ⟨opening, _, rfl, opens, behind⟩ := exists_required chosen
    obtain ⟨expression, _, expressionRead, ending⟩ := bind_done.mp behind
    obtain ⟨inner, rfl, joins⟩ := expression_writes expressionRead
    obtain ⟨closing, rfl, closes, rfl⟩ := exists_closed ending
    exact ⟨direction :: opening :: inner ++ [closing], by simp, .directed directs opens joins closes⟩

/-- A column that is an expression is one with a name. -/
theorem projection?_writes : Writes (fun taken found => ∀ expression name,
    found = some (.aliased expression name) → IsNamed taken expression name) (projection? (inside brackets)) := by
  intro tokens found rest read
  obtain ⟨_ | token, between, accepted, chosen⟩ := bind_done.mp read
  · obtain ⟨rfl, -⟩ := accept?_none.mp accepted
    rcases exists_accepted chosen with ⟨opening, _, rfl, opens, further⟩ | further
    · obtain ⟨pair, _, namedRead, given⟩ := bind_done.mp further
      obtain ⟨rfl, rfl⟩ := pure_done.mp given
      obtain ⟨taken, rfl, named⟩ := namedExpression_writes namedRead
      refine ⟨opening :: taken, rfl, ?_⟩
      rintro expression name ⟨⟩
      exact named opening opens
    · obtain ⟨rfl, rfl⟩ := pure_done.mp further
      exact ⟨[], rfl, nofun⟩
  · obtain ⟨rfl, -⟩ := accept?_some.mp accepted
    obtain ⟨rfl, rfl⟩ := pure_done.mp chosen
    exact ⟨[token], rfl, nofun⟩

/-- A value that is made of what a reader comes to. -/
theorem exists_made {R : Reader α} {make : α → β} {b : β}
    (read : (R >>= fun a => pure (make a)).read tokens = .done b rest) :
    ∃ a, R.read tokens = .done a rest ∧ make a = b := by
  obtain ⟨a, _, first, given⟩ := bind_done.mp read
  obtain ⟨rfl, rfl⟩ := pure_done.mp given
  exact ⟨a, first, rfl⟩

/-- **Alternatives hold no expression** by themselves. -/
theorem alternatives_holds {depth : Option Inside} {element : Element} {taken : List Token}
    (read : (alternatives depth).read tokens = .done element rest) : element.Holds taken := by
  obtain ⟨first, _, -, further⟩ := bind_done.mp read
  obtain ⟨others, _, -, given⟩ := bind_done.mp further
  cases others with
  | nil =>
    obtain ⟨rfl, -⟩ := pure_done.mp given
    exact trivial
  | cons second others =>
    obtain ⟨rfl, -⟩ := pure_done.mp given
    exact trivial

theorem pattern_writes : Writes (fun taken element => element.Holds taken) (pattern (inside brackets)) := by
  intro tokens element rest read
  obtain ⟨taken, rfl⟩ := exists_taken read
  refine ⟨taken, rfl, ?_⟩
  obtain ⟨_ | _, _, brace, chosen⟩ := bind_done.mp read
  swap
  · exact alternatives_holds chosen
  obtain ⟨-, rfl⟩ := next_done.mp brace
  rcases exists_accepted chosen with ⟨_, _, -, -, optional⟩ | chosen
  · obtain ⟨_, -, rfl⟩ := exists_made optional
    exact trivial
  rcases exists_accepted chosen with ⟨_, _, -, -, minus⟩ | chosen
  · obtain ⟨_, -, rfl⟩ := exists_made minus
    exact trivial
  rcases exists_accepted chosen with ⟨_, _, -, -, graph⟩ | chosen
  · obtain ⟨_, _, -, further⟩ := bind_done.mp graph
    obtain ⟨_, -, rfl⟩ := exists_made further
    exact trivial
  rcases exists_accepted chosen with ⟨_, _, -, -, service⟩ | chosen
  · obtain ⟨_, _, -, further⟩ := bind_done.mp service
    obtain ⟨_, _, -, further⟩ := bind_done.mp further
    obtain ⟨_, -, rfl⟩ := exists_made further
    exact trivial
  rcases exists_accepted chosen with ⟨keyword, _, whole, spells, filter⟩ | chosen
  · obtain ⟨expression, constraintRead, rfl⟩ := exists_made filter
    obtain ⟨others, rfl, isConstraint⟩ := constraint_writes constraintRead
    obtain rfl : taken = keyword :: others := List.append_cancel_right whole
    exact .filter spells isConstraint
  rcases exists_accepted chosen with ⟨keyword, _, whole, spells, bind⟩ | chosen
  · obtain ⟨opening, _, rfl, opens, further⟩ := exists_required bind
    obtain ⟨pair, namedRead, rfl⟩ := exists_made further
    obtain ⟨others, rfl, named⟩ := namedExpression_writes namedRead
    obtain rfl : taken = keyword :: opening :: others := List.append_cancel_right whole
    exact .bind spells (named opening opens)
  obtain ⟨_, -, rfl⟩ := exists_made chosen
  exact trivial

end Reader

/-! ## Everywhere in a query -/

/-- Tokens of the form stand somewhere. -/
def Token.Somewhere (whole : List Token) (form : List Token → Prop) : Prop :=
  ∃ before taken behind, whole = before ++ (taken ++ behind) ∧ form taken

open Token (Somewhere)

/-- What a rule reads is written by tokens that stand somewhere. -/
theorem Reader.Occurs.somewhere {α : Type} {rule : Option Inside → Reader α} {deepest : Nat} {a : α}
    {form : List Token → α → Prop} (h : Occurs whole deepest rule a)
    (writes : ∀ {brackets}, Writes form (rule (inside brackets))) : Somewhere whole (form · a) := by
  obtain ⟨-, rfl, read⟩ := h
  obtain ⟨taken, same, holds⟩ := writes read
  obtain rfl := List.append_cancel_right same
  exact ⟨_, _, _, rfl, holds⟩

/-- **Each expression of the node is written in the form of its place.** -/
def Tree.Bracketed (whole : List Token) : Tree → Prop
  | .aliased child name => ∃ column : Expression, column.tree = child ∧ Somewhere whole (IsNamed · column name)
  | .bind child name => ∃ assigned : Expression, assigned.tree = child ∧ Somewhere whole (IsAssignment · assigned name)
  | .filter child => ∃ condition : Expression, condition.tree = child ∧ Somewhere whole (IsFilter · condition)
  | .modifiers grouping constraints keys limit offset => ∃ behind : Modifiers,
      behind.tree = modifiers grouping constraints keys limit offset ∧
      (∀ condition ∈ behind.groupBy, Somewhere whole (IsGroupCondition · condition)) ∧
      (∀ condition ∈ behind.having, Somewhere whole (IsConstraint · condition)) ∧
      ∀ key ∈ behind.orderBy, Somewhere whole (IsOrderKey · key)
  | _ => True

/-- **A node that stems from its rule** is written in the form of its place. -/
theorem Tree.Arises.bracketed {deepest : Nat} {tree : Tree} (h : tree.Arises whole deepest) : tree.Bracketed whole := by
  cases tree with
  | aliased child name =>
    obtain ⟨_ | ⟨column, _⟩, same, occurs⟩ := h
    · cases same
    · cases same
      obtain ⟨before, taken, behind, rfl, holds⟩ := occurs.somewhere Reader.projection?_writes
      exact ⟨column, rfl, before, taken, behind, rfl, holds _ _ rfl⟩
  | bind child name =>
    obtain ⟨element, same, occurs⟩ := h
    cases element with
    | bind assigned _ =>
      cases same
      exact ⟨assigned, rfl, occurs.somewhere Reader.pattern_writes⟩
    | _ => cases same
  | filter child =>
    obtain ⟨element, same, occurs⟩ := h
    cases element with
    | filter condition =>
      cases same
      exact ⟨condition, rfl, occurs.somewhere Reader.pattern_writes⟩
    | _ => cases same
  | modifiers grouping constraints keys limit offset =>
    obtain ⟨behind, same, groupBy, having, orderBy⟩ := h
    exact ⟨behind, same, fun condition member => (groupBy condition member).somewhere Reader.groupCondition?_writes,
      fun condition member => (having condition member).somewhere Reader.constraint_writes,
      fun key member => (orderBy key member).somewhere Reader.orderKey?_writes⟩
  | _ => exact trivial

/-- **No brackets are empty but those of calls, conditions of `GROUP BY` and directions**: each expression of a query, and
of every group that is read in its tokens, kept or not, is written in the form of its place. -/
theorem parseTokens_bracketed {limits : Limits} {tokens : List Token} {query : Query}
    (h : parseTokens limits tokens = .ok query) :
    query.tree.Everywhere (Tree.Bracketed (Token.beforeEnd tokens).1) ∧
      ∀ group, Reader.Occurs (Token.beforeEnd tokens).1 limits.maxDepth Reader.group group →
        group.tree.Everywhere (Tree.Bracketed (Token.beforeEnd tokens).1) :=
  ⟨(parseTokens_traced h).mono fun _ => Tree.Arises.bracketed,
    fun _ occurs => occurs.traced.mono fun _ => Tree.Arises.bracketed⟩

/-- A column, a filter and an assignment with a token each, and an empty condition. -/
theorem parseTokens_bracketed_columns :
    let word (kind : Token.Kind) (text : String) : Token := ⟨kind, text.toList, .start⟩
    let tokens := [word .keyword "SELECT", word .punctuation "(", word .literal "1", word .keyword "AS", word .var "?x",
      word .punctuation ")", word .punctuation "\x7b", word .keyword "FILTER", word .punctuation "(", word .var "?y",
      word .punctuation ")", word .keyword "BIND", word .punctuation "(", word .var "?y", word .keyword "AS",
      word .var "?z", word .punctuation ")", word .punctuation "\x7d", word .keyword "GROUP", word .keyword "BY",
      word .punctuation "(", word .punctuation ")", word .eof ""]
    ∃ query, parseTokens .standard tokens = .ok query ∧
      query.tree.Everywhere (Tree.Bracketed (Token.beforeEnd tokens).1) := by
  intro word tokens
  have read : parseTokens .standard tokens = .ok _ := rfl
  exact ⟨_, read, (parseTokens_bracketed read).1⟩

/-- **Brackets in modifiers may be empty**: those of a condition of `GROUP BY`, and those behind a direction. -/
theorem modifiers_empty :
    ¬∀ {limits : Limits} {tokens : List Token} {query : Query}, parseTokens limits tokens = .ok query →
      (∀ condition ∈ query.modifiers.groupBy, condition.text ≠ []) ∧
        ∀ key ∈ query.modifiers.orderBy, key.expression.text ≠ [] := by
  intro nonempty
  let word (kind : Token.Kind) (text : String) : Token := ⟨kind, text.toList, .start⟩
  have read : parseTokens .standard [word .keyword "ASK", word .punctuation "\x7b", word .punctuation "\x7d",
      word .keyword "GROUP", word .keyword "BY", word .punctuation "(", word .punctuation ")", word .keyword "ORDER",
      word .keyword "BY", word .keyword "ASC", word .punctuation "(", word .punctuation ")", word .eof ""] =
    .ok ⟨[], .ask (.pattern []) ⟨[⟨[], [], []⟩], [], [⟨⟨[], [], []⟩, false⟩], none, none⟩ none⟩ := rfl
  exact (nonempty read).1 _ (.head _) rfl

end QuerySignature
