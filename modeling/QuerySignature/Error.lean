import QuerySignature.Token.Basic

/-!
# Error — why a query text is not read

A reading fails in one of two ways.  `ParseError` is a report on the text: a piece that is no token, a
token that the grammar does not admit, or a ceiling that was reached; it has a wording (`message`) and
mostly a place.  `Unreadable` is a term whose text fits the grammar but has no value: an escape without
its digits or beyond the last code point, a numeral that is too long.
-/

namespace QuerySignature

/-- **What a grammar rule looks for.** -/
inductive Expected where
  | symbol (text : String)
  | words (list : List String)
  | variableName
  | iri
  | queryForm
  | endOfInput
  | namespaceLabel
  | describedResource
  | updateOperation
  | expression
  | projection
  | groupCondition
  | havingConstraint
  | orderCondition
  | integer
  | constraint
  | patternElement
  | valuesHeader
  | dataValue
  | predicate
  | pathStep
  | term
  | rowOf (width : Nat)
  deriving DecidableEq

/-- The wording of what is looked for. -/
def Expected.described : Expected → Text
  | symbol text => '\'' :: text.toList ++ ['\'']
  | words list => Text.joined " or ".toList (list.map String.toList)
  | variableName => "variable".toList
  | iri => "IRI".toList
  | queryForm => "SELECT, ASK, CONSTRUCT, DESCRIBE or an update operation".toList
  | endOfInput => "end of input".toList
  | namespaceLabel => "prefix name ending in ':'".toList
  | describedResource => "variable, IRI or '*'".toList
  | updateOperation => "update operation".toList
  | expression => "expression".toList
  | projection => "'*', a variable or '(' expression AS ?alias ')'".toList
  | groupCondition => "GROUP BY condition".toList
  | havingConstraint => "HAVING constraint".toList
  | orderCondition => "ORDER BY condition".toList
  | integer => "integer".toList
  | constraint => "constraint".toList
  | patternElement => "triple pattern, graph pattern or '\x7d'".toList
  | valuesHeader => "variable or '(' after VALUES".toList
  | dataValue => "IRI, literal or UNDEF".toList
  | predicate => "predicate".toList
  | pathStep => "IRI or 'a' in property path".toList
  | term => "RDF term or variable".toList
  | rowOf width => Text.ofNat width ++ " values in VALUES row".toList

/-- What stands there instead. -/
inductive Found where
  | token (found : Token)
  | endOfInput
  | cells (count : Nat)
  deriving DecidableEq

/-- The wording of what stands there. -/
def Found.described : Found → Text
  | .token found => found.described
  | endOfInput => "end of input".toList
  | cells count => Text.ofNat count

/-- What is wrong with a piece of text that is no token. -/
inductive LexicalFault where
  | unterminatedString
  | unterminatedIri
  | unexpected (c : Char)
  deriving DecidableEq

/-- The wording of a lexical fault. -/
def LexicalFault.described : LexicalFault → Text
  | unterminatedString => "unterminated string literal".toList
  | unterminatedIri => "unterminated IRI".toList
  | unexpected c => "unexpected character ".toList ++ Text.quoted [c]

/-- The ceilings that a reading can reach. -/
inductive Ceiling where
  | inputLength
  | tokenCount
  | nestingDepth
  deriving DecidableEq

/-- The name of a ceiling. -/
def Ceiling.name : Ceiling → Text
  | inputLength => "input length".toList
  | tokenCount => "token count".toList
  | nestingDepth => "nesting depth".toList

/-- **A report on a text that is not a query.** -/
inductive ParseError where
  | lexical (fault : LexicalFault) (position : Position)
  | grammar (expected : Expected) (found : Found) (position : Position)
  | ceiling (reached : Ceiling) (value maximum : Nat) (position : Option Position)
  deriving DecidableEq

namespace ParseError

/-- Where the fault is, if it is at one place. -/
def position? : ParseError → Option Position
  | lexical _ position => some position
  | grammar _ _ position => some position
  | ceiling _ _ _ position => position

/-- The kind of report, as its heading names it. -/
def heading : ParseError → Text
  | lexical .. => "lex".toList
  | grammar .. => "syntax".toList
  | ceiling .. => "resource limit".toList

/-- The report without its heading. -/
def detail : ParseError → Text
  | lexical fault _ => fault.described
  | grammar expected found _ =>
    "expected ".toList ++ expected.described ++ ", found ".toList ++ found.described
  | .ceiling reached value maximum _ =>
    reached.name ++ ' ' :: Text.ofNat value ++ " exceeds maximum of ".toList ++ Text.ofNat maximum

/-- **The whole report**: its heading, its place and its detail. -/
def message (error : ParseError) : Text :=
  let place := match error.position? with
    | some position => " at line ".toList ++ Text.ofInt position.line ++ ", column ".toList
      ++ Text.ofInt position.column
    | none => []
  "SPARQL ".toList ++ error.heading ++ " error".toList ++ place ++ ": ".toList ++ error.detail

end ParseError

/-- **A term that has no value.** -/
inductive Unreadable where
  /-- The letter of an escape is not followed by its four or eight hexadecimal digits. -/
  | escapeDigits (letter : Char)
  /-- An escape names a number that is no code point. -/
  | escapeRange (code : Nat)
  /-- A numeral is too long, or its characters are not decimal digits. -/
  | numeral (text : Text)
  /-- A namespace is declared by a name without a colon. -/
  | namespaceColon (text : Text)
  deriving DecidableEq

/-- **Why a query text is not read.** -/
inductive Failure where
  | rejected (error : ParseError)
  | unreadable (term : Unreadable)
  deriving DecidableEq

end QuerySignature
