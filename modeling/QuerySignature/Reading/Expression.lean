import QuerySignature.Reading.Nesting

/-!
# Reading/Expression — expressions, taken token by token

An expression is not interpreted: its tokens are taken up to the bracket that closes it, and brackets inside
it only have to balance in number.  Where `EXISTS` is directly followed by a brace, a group is read, so that
its inline data is found.  The text of an expression is its tokens with single spaces between them, and its
variables are those among its tokens, each once.
-/

namespace QuerySignature

/-- The variables among tokens, each once, in the order in which they first occur. -/
def Token.vars (tokens : List Token) : List Text :=
  ((tokens.filter (·.kind = .var)).map Token.name).eraseDups

/-- The texts of tokens with single spaces between them. -/
def Token.spaced (tokens : List Token) : Text :=
  Text.joined [' '] (tokens.map Token.text)

/-- The expression of the tokens that were taken. -/
def Scanned.expression (scanned : Scanned) : Expression :=
  ⟨Token.spaced scanned.tokens, Token.vars scanned.tokens, scanned.patterns⟩

/-- Pieces one after the other. -/
def Scanned.concat (pieces : List Scanned) : Scanned :=
  ⟨pieces.flatMap Scanned.tokens, pieces.flatMap Scanned.patterns⟩

namespace Reader

/-- The words that open a clause, so that no function has their name. -/
def clauseWords : List Text :=
  ["SELECT", "WHERE", "GROUP", "HAVING", "ORDER", "LIMIT", "OFFSET", "VALUES", "FILTER", "OPTIONAL",
    "MINUS", "BIND", "GRAPH", "SERVICE", "UNION", "AS"].map String.toList

/-- The token can be the name of a function. -/
def isCallable (token : Token) : Bool :=
  (token.kind = .keyword && !clauseWords.contains (Text.upper token.text)) || token.isResource

/-- A function call comes next. -/
def startsCall : Reader Bool :=
  nextTwo isCallable (·.isSymbol ["("])

/-- A closing bracket of an expression. -/
def isCloser (token : Token) : Bool :=
  token.isSymbol [")", "\x7d"]

/-- The group of an `EXISTS` test. -/
def existsGroup (depth : Option Inside) : Reader Group := do
  let _ ← accept (·.spells ["NOT"])
  let _ ← word ["EXISTS"]
  group depth

/-- **An `EXISTS` test**, negated or not: the tokens it takes, and its group. -/
def existsTest (depth : Option Inside) : Reader Scanned := do
  let (tokens, pattern) ← taking (existsGroup depth)
  return ⟨tokens, [pattern]⟩

/-- **A piece of an expression**: an `EXISTS` test, a pair of brackets with what is between them, or a
token. -/
def piece (depth : Option Inside) : Reader Scanned := do
  if ← nextTwo (·.spells ["EXISTS"]) (·.isSymbol ["\x7b"]) then existsTest depth
  else
    match ← open? depth ["(", "\x7b"] with
    | some (opening, inside) =>
      let inner ← inside.brackets
      let closing ← shut (.symbol ")") isCloser
      return ⟨opening :: inner.tokens ++ [closing], inner.patterns⟩
    | none => return ⟨[← require (.symbol ")") fun _ => true], []⟩

/-- The pieces between brackets, up to any closing bracket. -/
def brackets (depth : Option Inside) : Reader Scanned :=
  return Scanned.concat (← manyUntil isCloser (piece depth))

/-- A piece of an expression outside its inner brackets; the expression ends before its closing bracket,
or before `AS` where a name may follow. -/
def outerPiece (depth : Option Inside) (named : Bool) : Reader (Option Scanned) := do
  if ← next fun token => token.isSymbol [")"] || (named && token.spells ["AS"]) then return none
  else if ← next (·.isSymbol ["\x7d"]) then refuse (.symbol ")")
  else return some (← piece depth)

/-- **Reads an expression**, up to its closing bracket, or up to `AS` where a name may follow. -/
def expression (depth : Option Inside) (named : Bool) : Reader Expression :=
  return (Scanned.concat (← many (outerPiece depth named))).expression

/-- Reads an expression that is not empty. -/
def someExpression (depth : Option Inside) (named : Bool) : Reader Expression := do
  let expression ← expression depth named
  if expression.text.isEmpty then refuse .expression else return expression

/-- **Reads a function call.** -/
def functionCall (depth : Option Inside) : Reader Expression := do
  let name ← require .constraint isCallable
  let _ ← symbol "("
  let arguments ← expression depth false
  let _ ← symbol ")"
  return ⟨name.text ++ '(' :: arguments.text ++ [')'], arguments.vars, arguments.patterns⟩

/-- A constraint comes next. -/
def startsConstraint : Reader Bool := do
  return (← next fun token => token.isSymbol ["("] || token.spells ["EXISTS", "NOT"]) || (← startsCall)

/-- **Reads a constraint**: an expression in brackets, an `EXISTS` test or a function call. -/
def constraint (depth : Option Inside) : Reader Expression := do
  if ← accept (·.isSymbol ["("]) then
    let expression ← someExpression depth false
    let _ ← symbol ")"
    return expression
  else if ← next (·.spells ["NOT", "EXISTS"]) then return (← existsTest depth).expression
  else if ← startsCall then functionCall depth
  else refuse .constraint

/-- Reads an expression with the name it is given, without its brackets. -/
def namedExpression (depth : Option Inside) : Reader (Expression × Text) := do
  let expression ← someExpression depth true
  let _ ← word ["AS"]
  let name ← variableName
  let _ ← symbol ")"
  return (expression, name)

end Reader

end QuerySignature
