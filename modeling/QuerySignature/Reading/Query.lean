import QuerySignature.Reading.Group
import QuerySignature.Token.Scan

/-!
# Reading/Query — whole queries

A query is a prologue and one of five forms: selections, tests, constructions, descriptions, and update
requests, which are operations separated by semicolons with further declarations between them.  Templates
are read like groups and mostly dropped.  Main definitions: `parseTokens`, `parse`.
-/

namespace QuerySignature

namespace Reader

/-! ## The prologue -/

/-- The token is a label and its colon, and nothing behind it. -/
def isNamespaceLabel (token : Token) : Bool :=
  token.isPrefixedName && (token.text.dropWhile (· != ':')).length == 1

/-- The label that a declaration binds. -/
def namespaceLabel : Reader Text := do
  match ← peek with
  | some token =>
    if token.isPrefixedName && !token.text.contains ':' then
      stop (.unreadable (.namespaceColon token.text))
    else return (← require .namespaceLabel isNamespaceLabel).text.dropLast
  | none => refuse .namespaceLabel

/-- A declaration, if one comes next. -/
def declaration? : Reader (Option Declaration) := do
  if ← accept (·.spells ["BASE"]) then return some (.base (← iri))
  else if ← accept (·.spells ["PREFIX"]) then
    let label ← namespaceLabel
    return some (.namespaceOf label (← iri))
  else return none

/-- **Reads a prologue.** -/
def prologue : Reader Prologue :=
  many declaration?

/-- Datasets, which are not kept. -/
def datasets : Reader Unit := do
  let _ ← many do
    if ← accept (·.spells ["FROM"]) then
      let _ ← accept (·.spells ["NAMED"])
      return some (← resource)
    else return none

/-! ## Queries -/

/-- Reads a group that only says what is asserted or removed. -/
def template (depth : Option Inside) : Reader Group :=
  within .template (group depth)

/-- **Reads a selection.** -/
def selectBody (depth : Option Inside) : Reader Query.Body := do
  let selection ← selection depth
  datasets
  let pattern ← whereGroup depth
  let modifiers ← modifiers depth
  return .select selection pattern modifiers (← values?)

/-- Reads a test. -/
def askBody (depth : Option Inside) : Reader Query.Body := do
  let _ ← word ["ASK"]
  datasets
  let pattern ← whereGroup depth
  let modifiers ← modifiers depth
  return .ask pattern modifiers (← values?)

/-- The pattern of a construction; its template is dropped, or is the pattern itself. -/
def constructGroup (depth : Option Inside) : Reader Group := do
  if ← next (·.isSymbol ["\x7b"]) then
    let _ ← template depth
    datasets
    whereGroup depth
  else
    datasets
    let _ ← word ["WHERE"]
    group depth

/-- Reads a construction. -/
def constructBody (depth : Option Inside) : Reader Query.Body := do
  let _ ← word ["CONSTRUCT"]
  let pattern ← constructGroup depth
  let modifiers ← modifiers depth
  return .construct pattern modifiers (← values?)

/-- What a description is of; it is not kept. -/
def described : Reader Unit := do
  if ← accept (·.isSymbol ["*"]) then return
  else
    let isNamed (token : Token) := token.kind = .var || token.kind = .iri || token.kind = .prefixedName
    let list ← many (accept? isNamed)
    if list.isEmpty then refuse .describedResource

/-- Reads a description, whose pattern may be missing. -/
def describeBody (depth : Option Inside) : Reader Query.Body := do
  let _ ← word ["DESCRIBE"]
  described
  datasets
  let pattern ←
    if (← accept (·.spells ["WHERE"])) || (← next (·.isSymbol ["\x7b"])) then
      some <$> group depth
    else pure none
  let modifiers ← modifiers depth
  return .describe pattern modifiers (← values?)

/-! ## Updates -/

/-- A graph by its name, or the default graph. -/
def graphOrDefault : Reader Unit := do
  if ← accept (·.spells ["DEFAULT"]) then return
  else
    let _ ← accept (·.spells ["GRAPH"])
    let _ ← resource

/-- The rest of an operation that matches a pattern. -/
def modify (depth : Option Inside) (deleted inserted : Option Group) : Reader Operation := do
  let _ ← many do
    if ← accept (·.spells ["USING"]) then
      let _ ← accept (·.spells ["NAMED"])
      return some (← resource)
    else return none
  let _ ← word ["WHERE"]
  return .modify deleted inserted (← group depth)

/-- A deletion with an insertion behind it, if there is one. -/
def deleteInsert (depth : Option Inside) : Reader Operation := do
  let deleted ← template depth
  let inserted ←
    if ← accept (·.spells ["INSERT"]) then some <$> template depth else pure none
  modify depth (some deleted) inserted

/-- The rest of an operation on whole graphs. -/
def manage (management : Management) : Reader Operation := do
  let _ ← accept (·.spells ["SILENT"])
  match management with
  | .load =>
    let _ ← resource
    if ← accept (·.spells ["INTO"]) then
      let _ ← word ["GRAPH"]
      let _ ← resource
  | .clear | .drop =>
    if ← accept (·.spells ["GRAPH"]) then
      let _ ← resource
    else
      let _ ← word ["DEFAULT", "NAMED", "ALL"]
  | .create =>
    let _ ← word ["GRAPH"]
    let _ ← resource
  | .add | .move | .copy =>
    graphOrDefault
    let _ ← word ["TO"]
    graphOrDefault
  return .manage management

/-- The operation on whole graphs that a token names. -/
def management? (token : Token) : Option Management :=
  [.load, .clear, .drop, .create, .add, .move, .copy].find? fun management =>
    token.spells [management.keyword]

/-- **Reads an operation.** -/
def operation (depth : Option Inside) : Reader Operation := do
  match ← accept? fun token => (management? token).isSome with
  | some token =>
    match management? token with
    | some management => manage management
    | none => refuse .updateOperation
  | none =>
    if ← accept (·.spells ["INSERT"]) then
      if ← accept (·.spells ["DATA"]) then return .insertData (← template depth)
      else
        let inserted ← template depth
        modify depth none (some inserted)
    else if ← accept (·.spells ["DELETE"]) then
      if ← accept (·.spells ["DATA"]) then return .deleteData (← template depth)
      else if ← accept (·.spells ["WHERE"]) then return .deleteWhere (← group depth)
      else deleteInsert depth
    else if ← accept (·.spells ["WITH"]) then
      let _ ← resource
      if ← accept (·.spells ["INSERT"]) then
        let inserted ← template depth
        modify depth none (some inserted)
      else
        let _ ← word ["DELETE"]
        deleteInsert depth
    else refuse .updateOperation

/-- An operation with the declarations behind its semicolon, and whether another one follows. -/
def operationTurn (depth : Option Inside) : Reader (Turn (Operation × Prologue)) := do
  let operation ← operation depth
  if ← accept (·.isSymbol [";"]) then
    let declarations ← prologue
    if (← peek).isSome then return .more (operation, declarations)
    else return .last (operation, declarations)
  else return .last (operation, [])

/-! ## All forms -/

/-- The words that start an operation. -/
def updateWords : List String :=
  ["INSERT", "DELETE", "LOAD", "CLEAR", "DROP", "CREATE", "ADD", "MOVE", "COPY", "WITH"]

/-- The body of a query, with the declarations inside it. -/
def body (depth : Option Inside) : Reader (Query.Body × Prologue) := do
  if ← next (·.spells ["SELECT"]) then return (← selectBody depth, [])
  else if ← next (·.spells ["ASK"]) then return (← askBody depth, [])
  else if ← next (·.spells ["CONSTRUCT"]) then return (← constructBody depth, [])
  else if ← next (·.spells ["DESCRIBE"]) then return (← describeBody depth, [])
  else if ← next (·.spells updateWords) then
    let operations ← loop (operationTurn depth)
    return (.update (operations.map (·.1)), operations.flatMap (·.2))
  else refuse .queryForm

/-- **Reads a query**, which must take every token. -/
def query (depth : Option Inside) : Reader Query := do
  let declarations ← prologue
  let (body, further) ← body depth
  if (← peek).isSome then refuse .endOfInput
  else return ⟨declarations ++ further, body⟩

end Reader

/-! ## From tokens and from text -/

/-- The failure that a fault is, where the text ends at a position. -/
def Fault.failure (limits : Limits) (stop : Position) : Fault → Failure
  | .unexpected expected (some token) => .rejected (.grammar expected (.token token) token.position)
  | .unexpected expected none => .rejected (.grammar expected .endOfInput stop)
  | .tooDeep bracket =>
    .rejected (.ceiling .nestingDepth (limits.maxDepth + 1) limits.maxDepth bracket.position)
  | .rowLength width count row => .rejected (.grammar (.rowOf width) (.cells count) row.position)
  | .unreadable term => .unreadable term

/-- **The query that tokens write**, up to the first token of kind `eof`, which stands at `stop`. -/
def Query.ofTokens (limits : Limits) (tokens : List Token) (stop : Position) : Except Failure Query :=
  match (Reader.query (Reader.inside limits.maxDepth)).read tokens with
  | .done query _ => .ok query
  | .stopped fault _ => .error (fault.failure limits stop)

/-- The tokens before the first of kind `eof`, and where that one stands. -/
def Token.beforeEnd (tokens : List Token) : List Token × Position :=
  (tokens.takeWhile (·.kind ≠ .eof),
    ((tokens.find? (·.kind = .eof)).map Token.position).getD .start)

/-- **Why a list of tokens is not read**: it does not end with a token of kind `eof`, or it is no
query. -/
inductive StreamFailure where
  | unended
  | failed (failure : Failure)
  deriving DecidableEq

/-- **Reads a list of tokens** as a query. -/
def parseTokens (limits : Limits) (tokens : List Token) : Except StreamFailure Query :=
  if tokens.getLast?.any (·.kind = .eof) then
    if limits.maxTokens < tokens.length - 1 then
      .error (.failed (.rejected (.ceiling .tokenCount (tokens.length - 1) limits.maxTokens
        (tokens.head?.map Token.position))))
    else
      let (tokens, stop) := Token.beforeEnd tokens
      (Query.ofTokens limits tokens stop).mapError .failed
  else .error .unended

/-- **Reads a text** as a query. -/
def parse (limits : Limits) (text : Text) : Except Failure Query :=
  match tokenize limits text with
  | .error error => .error (.rejected error)
  | .ok tokens =>
    let (tokens, stop) := Token.beforeEnd tokens
    Query.ofTokens limits tokens stop

end QuerySignature
