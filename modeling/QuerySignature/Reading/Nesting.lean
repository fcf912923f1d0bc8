import QuerySignature.Reading.Basic

/-!
# Reading/Nesting — what may stand inside a bracket

The grammar recurs through brackets alone, and the limits bound how many may be open.  So every rule is a
plain definition over what can be read one bracket further in: an `Inside`, or `none` where no further
bracket may open.  `enter` is the one place where the depth is checked; the bracket that closes a level ends
it (`shut`).
-/

namespace QuerySignature

/-- The tokens of an expression, with the groups of its `EXISTS` tests. -/
structure Scanned where
  tokens : List Token
  patterns : List Group

/-- **What can be read inside one more bracket.** -/
structure Inside where
  /-- A property path, up to the closing bracket. -/
  path : Reader (List Token)
  /-- An item of a collection. -/
  node : Reader Node
  /-- The verbs and objects of a property list. -/
  properties : Reader (List (Verb × Node))
  /-- The tokens of an expression, up to the closing bracket. -/
  brackets : Reader Scanned
  /-- The content of a group. -/
  content : Reader Group

namespace Reader

/-- **Goes inside a bracket**, if one more may be open. -/
def enter (depth : Option Inside) (bracket : Token) : Reader Inside :=
  match depth with
  | some inside => do
    shift (.opens bracket)
    return inside
  | none => stop (.tooDeep bracket)

/-- Takes the bracket that closes a level, which must satisfy the predicate, and leaves the level. -/
def shut (expected : Expected) (p : Token → Bool) : Reader Token := do
  let bracket ← require expected p
  shift .closes
  return bracket

/-- Takes the symbol that closes a level, and leaves the level. -/
def close (text : String) : Reader Token :=
  shut (.symbol text) (·.isSymbol [text])

/-- Goes inside one of the brackets if it comes next: the depth is checked before the bracket is taken. -/
def open? (depth : Option Inside) (brackets : List String) : Reader (Option (Token × Inside)) := do
  match (← peek).filter (·.isSymbol brackets) with
  | some bracket =>
    let inside ← enter depth bracket
    return (← accept? (·.isSymbol brackets)).map (·, inside)
  | none => return none

/-- **Reads a group in braces.**  The brace is taken before the depth is checked. -/
def group (depth : Option Inside) : Reader Group := do
  let brace ← symbol "\x7b"
  let inside ← enter depth brace
  let group ← inside.content
  let _ ← close "\x7d"
  return group

end Reader

end QuerySignature
