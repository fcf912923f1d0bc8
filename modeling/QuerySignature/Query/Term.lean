import QuerySignature.Text.Basic

/-!
# Query/Term — the terms of a query

Terms are kept as written: names under a namespace are not expanded, and a literal holds its own text
beside its value.  A `Node` stands as subject or object of a triple, a `Verb` between them, a `Cell` in an
inline data block; each position has a type of its own, so a property path is never a subject and a
variable never a cell.  A bracketed property list holds its verbs and objects only, for its subject is the
unlabelled blank node.
-/

namespace QuerySignature

/-- **A resource**: an IRI without its angle brackets, or a name under a namespace. -/
inductive Resource where
  | iri (value : Text)
  | prefixed (label : Text) (name : Text)
  deriving DecidableEq, Repr

/-- **A literal**: its text as written and its value, as code points, because an escape can name a
surrogate. -/
structure Literal where
  lexical : Text
  value : List Nat
  language : Option Text
  datatype : Option Text
  deriving DecidableEq, Repr

/-- A variable or a resource. -/
inductive Target where
  | var (name : Text)
  | resource (resource : Resource)
  deriving DecidableEq, Repr

/-- **The verb of a triple**: a variable, a resource, or a property path as written. -/
inductive Verb where
  | var (name : Text)
  | resource (resource : Resource)
  | path (text : Text)
  deriving DecidableEq, Repr

/-- **The subject or object of a triple.**  A blank node without a label is written `[]`; a property
list stands for an unlabelled blank node of which its verbs and objects hold. -/
inductive Node where
  | var (name : Text)
  | resource (resource : Resource)
  | literal (literal : Literal)
  | blank (label : Option Text)
  | properties (list : List (Verb × Node))
  | collection (items : List Node)

/-- **A triple pattern.** -/
structure Triple where
  subject : Node
  verb : Verb
  object : Node

/-- **A cell of an inline data block**; `undef` leaves the variable open. -/
inductive Cell where
  | resource (resource : Resource)
  | literal (literal : Literal)
  | undef
  deriving DecidableEq, Repr

/-- The triples of a subject, one for each verb and object. -/
def Triple.ofSubject (subject : Node) (properties : List (Verb × Node)) : List Triple :=
  properties.map fun (verb, object) => ⟨subject, verb, object⟩

/-! ## Written form -/

/-- A resource as a query writes it. -/
def Resource.written : Resource → Text
  | iri value => '<' :: value ++ ['>']
  | prefixed label name => label ++ ':' :: name

/-- A literal as the query wrote it. -/
def Literal.written (literal : Literal) : Text :=
  literal.lexical

/-- A cell as a query writes it. -/
def Cell.written : Cell → Text
  | .resource name => name.written
  | .literal term => term.written
  | undef => "UNDEF".toList

/-- A node as a query writes it; `none` for a node that is made of others. -/
def Node.written? : Node → Option Text
  | var name => some ('?' :: name)
  | .resource name => some name.written
  | .literal term => some term.written
  | blank label =>
    some (if (label.getD []).isEmpty then ['[', ']'] else '_' :: ':' :: label.getD [])
  | properties _ => none
  | collection _ => none

/-- A verb as a query writes it; `none` for a path. -/
def Verb.written? : Verb → Option Text
  | var name => some ('?' :: name)
  | .resource name => some name.written
  | path _ => none

/-! ## Variables -/

/-- The variable of a verb, if it is one. -/
def Verb.vars : Verb → List Text
  | var name => [name]
  | _ => []

/-- The variable of a target, if it is one. -/
def Target.vars : Target → List Text
  | var name => [name]
  | resource _ => []

mutual

/-- **The variables of a node**, in the order in which they occur, repetitions included. -/
def Node.vars : Node → List Text
  | .var name => [name]
  | .properties list => Node.variablesOfProperties list
  | .collection items => Node.variablesOfItems items
  | _ => []

/-- The variables of verbs and objects, each verb before its object. -/
def Node.variablesOfProperties : List (Verb × Node) → List Text
  | [] => []
  | (verb, object) :: rest => verb.vars ++ object.vars ++ Node.variablesOfProperties rest

/-- The variables of the items of a collection. -/
def Node.variablesOfItems : List Node → List Text
  | [] => []
  | item :: rest => item.vars ++ Node.variablesOfItems rest

end

/-- **The variables of a triple**: of its subject, its verb and its object. -/
def Triple.vars (triple : Triple) : List Text :=
  triple.subject.vars ++ triple.verb.vars ++ triple.object.vars

end QuerySignature
