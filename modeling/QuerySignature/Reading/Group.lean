import QuerySignature.Reading.Modifiers
import QuerySignature.Reading.Triples
import QuerySignature.Reading.Values

/-!
# Reading/Group — the content of a group

A group holds one inner selection, or elements: triples, and patterns that start with a brace or a keyword.
A point may follow a pattern; between triples it must stand.  `inside` ties the rules together: with no
bracket left it is `none`, and with one more it is every rule over what is inside the next bracket.
-/

namespace QuerySignature.Reader

/-- The pattern of a selection, behind an optional keyword. -/
def whereGroup (depth : Option Inside) : Reader Group := do
  let _ ← accept (·.spells ["WHERE"])
  group depth

/-- **Reads a selection inside a group.** -/
def subSelect (depth : Option Inside) : Reader SubSelect := do
  let selection ← selection depth
  let pattern ← whereGroup depth
  let modifiers ← modifiers depth
  return ⟨selection, pattern, modifiers, ← values?⟩

/-- The token starts a pattern that is not made of triples. -/
def startsPattern (token : Token) : Bool :=
  token.isSymbol ["\x7b"] ||
    token.spells ["OPTIONAL", "MINUS", "GRAPH", "SERVICE", "FILTER", "BIND", "VALUES"]

/-- A group, or the union of several. -/
def alternatives (depth : Option Inside) : Reader Element := do
  let first ← group depth
  let others ← many do
    if ← accept (·.spells ["UNION"]) then return some (← group depth) else return none
  match others with
  | [] => return .nested first
  | second :: others => return .union first second others

/-- **Reads a pattern that is not made of triples.** -/
def pattern (depth : Option Inside) : Reader Element := do
  if ← next (·.isSymbol ["\x7b"]) then alternatives depth
  else if ← accept (·.spells ["OPTIONAL"]) then return .optional (← group depth)
  else if ← accept (·.spells ["MINUS"]) then return .minus (← group depth)
  else if ← accept (·.spells ["GRAPH"]) then
    let name ← target
    return .graph name (← group depth)
  else if ← accept (·.spells ["SERVICE"]) then
    let silent ← accept (·.spells ["SILENT"])
    let endpoint ← target
    return .service silent endpoint (← group depth)
  else if ← accept (·.spells ["FILTER"]) then return .filter (← constraint depth)
  else if ← accept (·.spells ["BIND"]) then
    let _ ← symbol "("
    let (expression, name) ← namedExpression depth
    return .bind expression name
  else return .values (← values)

/-- The next elements of a group, and whether others may follow: behind triples without a point only a
pattern may. -/
def elements (depth : Option Inside) : Reader (Turn (List Element)) := do
  if ← next (·.isSymbol ["\x7d"]) then return .stop
  else if ← next startsPattern then
    let element ← pattern depth
    let _ ← accept (·.isSymbol ["."])
    return .more [element]
  else if ← startsNode then
    let list := (← triples depth).map Element.triple
    if ← accept (·.isSymbol ["."]) then return .more list
    else if ← next startsPattern then return .more list
    else return .last list
  else refuse (if (← peek).isSome then .patternElement else .symbol "\x7d")

/-- **Reads the content of a group**, up to its closing brace. -/
def content (depth : Option Inside) : Reader Group := do
  if ← next (·.spells ["SELECT"]) then return .selection (← subSelect depth)
  else return .pattern (← loop (elements depth)).flatten

/-- **What can be read inside a bracket** if so many brackets may be open within it. -/
def inside : (brackets : Nat) → Option Inside
  | 0 => none
  | brackets + 1 =>
    let depth := inside brackets
    some ⟨path depth, node depth, properties depth, Reader.brackets depth, content depth⟩

end QuerySignature.Reader
