import QuerySignature.Reading.Path

/-!
# Reading/Triples — nodes and triples

A node is a term, a property list in square brackets or a collection in round ones.  Verbs are separated by
semicolons, of which several may follow each other, and the objects of one verb by commas.  A property list
that no verb follows stands for its own triples.
-/

namespace QuerySignature.Reader

/-- **Reads a node.** -/
def node (depth : Option Inside) : Reader Node := do
  match ← acceptTwo? (·.isSymbol ["["]) (·.isSymbol ["]"]) with
  | some _ => return .blank none
  | none =>
    match ← open? depth ["["] with
    | some (_, inside) =>
      let list ← inside.properties
      let _ ← close "]"
      return .properties list
    | none =>
      match ← open? depth ["("] with
      | some (_, inside) =>
        let items ← manyWhile (!·.isSymbol [")"]) inside.node
        let _ ← close ")"
        return .collection items
      | none => term

/-- The token can start a node; a sign can if a number follows it. -/
def startsNode : Reader Bool := do
  if ← next fun token => isAtom token || token.isSymbol ["[", "("] then return true
  else nextTwo (·.isSymbol ["+", "-"]) Token.isNumeric

/-- The objects of a verb. -/
def objects (depth : Option Inside) : Reader (List Node) := do
  let first ← node depth
  let others ← many do
    if ← accept (·.isSymbol [","]) then return some (← node depth) else return none
  return first :: others

/-- A verb with its objects, and whether another verb follows. -/
def property (depth : Option Inside) : Reader (Turn (List (Verb × Node))) := do
  let verb ← verb depth
  let list := (← objects depth).map fun object => (verb, object)
  if ← accept (·.isSymbol [";"]) then
    let _ ← many (accept? (·.isSymbol [";"]))
    if ← next startsVerb then return .more list else return .last list
  else return .last list

/-- **Reads verbs with their objects.** -/
def properties (depth : Option Inside) : Reader (List (Verb × Node)) :=
  return (← loop (property depth)).flatten

/-- **Reads the triples of one subject.** -/
def triples (depth : Option Inside) : Reader (List Triple) := do
  let bracketed := (← next (·.isSymbol ["["])) && !(← nextTwo (·.isSymbol ["["]) (·.isSymbol ["]"]))
  let subject ← node depth
  match subject, bracketed && !(← next startsVerb) with
  | .properties list, true => return Triple.ofSubject (.blank none) list
  | subject, _ => return Triple.ofSubject subject (← properties depth)

end QuerySignature.Reader
