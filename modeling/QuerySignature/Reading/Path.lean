import QuerySignature.Reading.Nesting
import QuerySignature.Reading.Term

/-!
# Reading/Path — property paths and verbs

A path is alternatives of sequences of elements; an element may be inverted in front and repeated behind,
and is a resource, a path in brackets or a negated set.  The readers give the tokens that they take.  A path
of one token is the resource it names (`a` names the type property); a longer one is kept as its text.
-/

namespace QuerySignature.Reader

/-- The property that the word `a` names. -/
def typeProperty : Text := "http://www.w3.org/1999/02/22-rdf-syntax-ns#type".toList

/-- The token is a step of a path by itself. -/
def isStep (token : Token) : Bool :=
  token.isResource || token.spells ["a"]

/-- Takes a step. -/
def step : Reader Token :=
  require .pathStep isStep

/-- Takes one of the symbols if it comes next. -/
def optionalSymbol (symbols : List String) : Reader (List Token) :=
  return (← accept? (·.isSymbol symbols)).toList

/-- Reads items with the symbol between them. -/
def separated (mark : String) (item : Reader (List Token)) : Reader (List Token) := do
  let first ← item
  let others ← many do
    match ← accept? (·.isSymbol [mark]) with
    | some token => return some (token :: (← item))
    | none => return none
  return first ++ others.flatten

/-- A step that may be inverted. -/
def inverseStep : Reader (List Token) := do
  let inverse ← optionalSymbol ["^"]
  return inverse ++ [← step]

/-- What a negation excludes: one step, or several in brackets, or none in brackets. -/
def negatedSet (depth : Option Inside) : Reader (List Token) := do
  match ← open? depth ["("] with
  | none => inverseStep
  | some (opening, _) =>
    match ← accept? (·.isSymbol [")"]) with
    | some closing =>
      shift .closes
      return [opening, closing]
    | none =>
      let steps ← separated "|" inverseStep
      return opening :: steps ++ [← close ")"]

/-- The middle of a path element. -/
def pathPrimary (depth : Option Inside) : Reader (List Token) := do
  match ← open? depth ["("] with
  | some (opening, inside) =>
    let path ← inside.path
    return opening :: path ++ [← close ")"]
  | none =>
    match ← accept? (·.isSymbol ["!"]) with
    | some negation => return negation :: (← negatedSet depth)
    | none => return [← step]

/-- An element of a path. -/
def pathElement (depth : Option Inside) : Reader (List Token) := do
  let inverse ← optionalSymbol ["^"]
  let primary ← pathPrimary depth
  let repetition ← optionalSymbol ["*", "+", "?"]
  return inverse ++ primary ++ repetition

/-- A sequence of path elements. -/
def pathSequence (depth : Option Inside) : Reader (List Token) :=
  separated "/" (pathElement depth)

/-- **Reads a property path** and gives its tokens. -/
def path (depth : Option Inside) : Reader (List Token) :=
  separated "|" (pathSequence depth)

/-- The token can start a verb. -/
def startsVerb (token : Token) : Bool :=
  token.kind = .var || isStep token || token.isSymbol ["^", "(", "!"]

/-- The property that a path of one token names. -/
def propertyOf (token : Token) : Resource :=
  if token.kind = .iri || token.kind = .prefixedName then token.resource else .iri typeProperty

/-- **Reads a verb.** -/
def verb (depth : Option Inside) : Reader Verb := do
  match ← accept? (·.kind = .var) with
  | some token => return .var token.name
  | none =>
    if ← next startsVerb then
      match ← path depth with
      | [token] => return .resource (propertyOf token)
      | tokens => return .path (tokens.flatMap Token.text)
    else refuse .predicate

end QuerySignature.Reader
