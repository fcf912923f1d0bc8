import QuerySignature.Reading.Expression
import QuerySignature.Text.Numeral

/-!
# Reading/Modifiers — selections and solution modifiers

The clauses behind a pattern come in one order: grouping, selection among groups, sort keys, then `LIMIT`
and `OFFSET` in either order, each at most once.
-/

namespace QuerySignature.Reader

/-! ## Selections -/

/-- A column of a selection. -/
def projection? (depth : Option Inside) : Reader (Option Projection) := do
  match ← accept? (·.kind = .var) with
  | some token => return some (.var token.name)
  | none =>
    if ← accept (·.isSymbol ["("]) then
      let (expression, name) ← namedExpression depth
      return some (.aliased expression name)
    else return none

/-- What the selection does with equal solutions. -/
def duplicates : Reader Duplicates := do
  if ← accept (·.spells ["DISTINCT"]) then return .distinct
  else if ← accept (·.spells ["REDUCED"]) then return .reduced
  else return .kept

/-- **Reads what a selection selects**, from its keyword on. -/
def selection (depth : Option Inside) : Reader Selection := do
  let _ ← word ["SELECT"]
  let duplicates ← duplicates
  if ← accept (·.isSymbol ["*"]) then return ⟨.everything, duplicates⟩
  else
    let list ← many (within .projection (projection? depth))
    if list.isEmpty then refuse .projection else return ⟨.listed list, duplicates⟩

/-! ## Grouping and order -/

/-- A condition of `GROUP BY`. -/
def groupCondition? (depth : Option Inside) : Reader (Option Expression) := do
  match ← accept? (·.kind = .var) with
  | some token => return some ⟨token.text, [token.name], []⟩
  | none =>
    if ← accept (·.isSymbol ["("]) then
      let inner ← expression depth true
      if ← accept (·.spells ["AS"]) then
        let name ← require .variableName (·.kind = .var)
        let _ ← symbol ")"
        return some ⟨'(' :: inner.text ++ " AS ".toList ++ name.text ++ [')'],
          (inner.vars ++ [name.name]).eraseDups, inner.patterns⟩
      else
        let _ ← symbol ")"
        return some inner
    else if ← startsCall then return some (← functionCall depth)
    else return none

/-- A sort key. -/
def orderKey? (depth : Option Inside) : Reader (Option OrderKey) := do
  match ← accept? (·.spells ["ASC", "DESC"]) with
  | some token =>
    let _ ← symbol "("
    let expression ← expression depth false
    let _ ← symbol ")"
    return some ⟨expression, token.spells ["DESC"]⟩
  | none =>
    match ← accept? (·.kind = .var) with
    | some token => return some ⟨⟨token.text, [token.name], []⟩, false⟩
    | none =>
      if ← startsConstraint then return some ⟨← constraint depth, false⟩ else return none

/-- Reads one or more items behind a keyword, none without it. -/
def clause (keyword : Reader Bool) (missing : Expected) (item : Reader (Option α)) :
    Reader (List α) := do
  if ← keyword then
    let list ← many item
    if list.isEmpty then refuse missing else return list
  else return []

/-- A keyword that `BY` must follow. -/
def keywordBy (keyword : String) : Reader Bool := do
  if ← accept (·.spells [keyword]) then
    let _ ← word ["BY"]
    return true
  else return false

/-- A constraint, if one comes next. -/
def constraint? (depth : Option Inside) : Reader (Option Expression) := do
  if ← startsConstraint then return some (← constraint depth) else return none

/-! ## Slices -/

/-- The token is a literal of digits. -/
def isDigits (token : Token) : Bool :=
  token.kind = .literal && Text.isDigits token.text

/-- **Reads a clause that slices**, from its keyword on, if it comes next. -/
def slice? (keyword : String) : Reader (Option Slice) := do
  match ← accept? (·.spells [keyword]) with
  | none => return none
  | some keyword =>
    let number ← require .integer isDigits
    match Text.natural? number.text with
    | some value => return some ⟨keyword.text, number.text, value⟩
    | none => stop (.unreadable (.numeral number.text))

/-- The limit and the offset, in either order. -/
def slices : Reader (Option Slice × Option Slice) := do
  match ← slice? "LIMIT" with
  | some limit => return (some limit, ← slice? "OFFSET")
  | none =>
    match ← slice? "OFFSET" with
    | some offset => return (← slice? "LIMIT", some offset)
    | none => return (none, none)

/-- **Reads solution modifiers.** -/
def modifiers (depth : Option Inside) : Reader Modifiers := do
  let groupBy ← clause (keywordBy "GROUP") .groupCondition
    (within .grouping (groupCondition? depth))
  let having ← clause (accept (·.spells ["HAVING"])) .havingConstraint
    (within .having (constraint? depth))
  let orderBy ← clause (keywordBy "ORDER") .orderCondition
    (within .ordering (orderKey? depth))
  let (limit, offset) ← slices
  return ⟨groupBy, having, orderBy, limit, offset⟩

end QuerySignature.Reader
