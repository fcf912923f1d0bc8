import QuerySignature.Query.Term

/-!
# Query/Pattern — groups, selections and whole queries

A `Group` is a list of elements or a single inner selection, never both.  Expressions are not interpreted:
an `Expression` keeps its text, the variables it mentions, and the groups of the `EXISTS` tests inside it.
A `Query` is a prologue and a body of one of five forms; each form has the parts it needs and no others.
-/

namespace QuerySignature

/-- **The characters from one offset up to another.**  Like the tokens it is taken from, a span may stand
anywhere. -/
structure Span where
  start : Int
  stop : Int
  deriving DecidableEq, Repr

/-- **An inline data block**: the variables it declares, its rows, and where it stands. -/
structure Values where
  vars : List Text
  rows : List (List Cell)
  span : Span
  deriving DecidableEq, Repr

/-- **A `LIMIT` or `OFFSET` clause** as written, with the number it writes. -/
structure Slice where
  keyword : Text
  lexical : Text
  value : Nat
  deriving DecidableEq, Repr

/-- What a selection does with equal solutions. -/
inductive Duplicates where
  | kept
  | distinct
  | reduced
  deriving DecidableEq, Repr

mutual

/-- **An expression** as written, with the variables it mentions, each once, and the groups of its
`EXISTS` tests in order. -/
structure Expression where
  text : Text
  vars : List Text
  patterns : List Group

/-- **A group in braces**: elements in order, or one inner selection. -/
inductive Group where
  | pattern (elements : List Element)
  | selection (inner : SubSelect)

/-- **An element of a group.** -/
inductive Element where
  | triple (triple : Triple)
  | values (block : Values)
  | filter (expression : Expression)
  | optional (group : Group)
  | nested (group : Group)
  | union (first second : Group) (others : List Group)
  | minus (group : Group)
  | graph (name : Target) (group : Group)
  | service (silent : Bool) (endpoint : Target) (group : Group)
  | bind (expression : Expression) (name : Text)

/-- One column of a selection: a variable, or an expression with the name it is given. -/
inductive Projection where
  | var (name : Text)
  | aliased (expression : Expression) (name : Text)

/-- The columns of a selection: every variable of its pattern, or those that are listed. -/
inductive Projections where
  | everything
  | listed (list : List Projection)

/-- **What a selection selects.** -/
structure Selection where
  projections : Projections
  duplicates : Duplicates

/-- A sort key. -/
structure OrderKey where
  expression : Expression
  descending : Bool

/-- **What becomes of the solutions**: grouping, selection among groups, order and slice. -/
structure Modifiers where
  groupBy : List Expression
  having : List Expression
  orderBy : List OrderKey
  limit : Option Slice
  offset : Option Slice

/-- **A selection inside a group.** -/
structure SubSelect where
  selection : Selection
  group : Group
  modifiers : Modifiers
  values : Option Values

end

/-- No grouping, order or slice. -/
def Modifiers.empty : Modifiers := ⟨[], [], [], none, none⟩

/-- **A declaration of the prologue.** -/
inductive Declaration where
  | base (iri : Text)
  | namespaceOf (label : Text) (iri : Text)
  deriving DecidableEq, Repr

/-- **The prologue**: its declarations in order. -/
abbrev Prologue := List Declaration

/-- The base IRI: the one declared last. -/
def Prologue.base? (prologue : Prologue) : Option Text :=
  prologue.reverse.findSome? fun
    | .base iri => some iri
    | .namespaceOf .. => none

/-- The declared namespaces in order. -/
def Prologue.namespaces (prologue : Prologue) : List (Text × Text) :=
  prologue.filterMap fun
    | .base _ => none
    | .namespaceOf label iri => some (label, iri)

/-- The table with the label set: in place if it is there, else at the end. -/
def Prologue.setLabel (label iri : Text) : List (Text × Text) → List (Text × Text)
  | [] => [(label, iri)]
  | (l, i) :: rest => if l = label then (l, iri) :: rest else (l, i) :: setLabel label iri rest

/-- **The namespace of each label**: labels in the order of their first declaration, each with the IRI of
its last. -/
def Prologue.table (prologue : Prologue) : List (Text × Text) :=
  prologue.namespaces.foldl (fun table (label, iri) => setLabel label iri table) []

/-- The update operations that manage whole graphs. -/
inductive Management where
  | load
  | clear
  | drop
  | create
  | add
  | move
  | copy
  deriving DecidableEq, Repr

/-- The keyword of a management operation. -/
def Management.keyword : Management → String
  | load => "LOAD"
  | clear => "CLEAR"
  | drop => "DROP"
  | create => "CREATE"
  | add => "ADD"
  | move => "MOVE"
  | copy => "COPY"

/-- **An operation of an update request.** -/
inductive Operation where
  | manage (management : Management)
  | insertData (template : Group)
  | deleteData (template : Group)
  | deleteWhere (group : Group)
  | modify (deleted inserted : Option Group) (group : Group)

/-- The name of an operation. -/
def Operation.name : Operation → Text
  | manage management => management.keyword.toList
  | insertData _ => "INSERT DATA".toList
  | deleteData _ => "DELETE DATA".toList
  | deleteWhere _ => "DELETE WHERE".toList
  | modify .. => "MODIFY".toList

/-- The group that an operation matches. -/
def Operation.group? : Operation → Option Group
  | deleteWhere group => some group
  | modify _ _ group => some group
  | _ => none

/-- **The body of a query**, by its form. -/
inductive Query.Body where
  | select (selection : Selection) (group : Group) (modifiers : Modifiers) (values : Option Values)
  | ask (group : Group) (modifiers : Modifiers) (values : Option Values)
  | construct (group : Group) (modifiers : Modifiers) (values : Option Values)
  | describe (group : Option Group) (modifiers : Modifiers) (values : Option Values)
  | update (operations : List Operation)

/-- **A query.** -/
structure Query where
  prologue : Prologue
  body : Query.Body

namespace Query

/-- The keyword of the form. -/
def form (query : Query) : Text :=
  match query.body with
  | .select .. => "SELECT".toList
  | .ask .. => "ASK".toList
  | .construct .. => "CONSTRUCT".toList
  | .describe .. => "DESCRIBE".toList
  | .update .. => "UPDATE".toList

/-- What the query selects, if it is a selection. -/
def selection? (query : Query) : Option Selection :=
  match query.body with
  | .select selection .. => some selection
  | _ => none

/-- The group that the query matches, if its form has one. -/
def group? (query : Query) : Option Group :=
  match query.body with
  | .select _ group .. => some group
  | .ask group .. => some group
  | .construct group .. => some group
  | .describe group .. => group
  | .update _ => none

/-- What becomes of the solutions. -/
def modifiers (query : Query) : Modifiers :=
  match query.body with
  | .select _ _ modifiers _ => modifiers
  | .ask _ modifiers _ => modifiers
  | .construct _ modifiers _ => modifiers
  | .describe _ modifiers _ => modifiers
  | .update _ => .empty

/-- The inline data block behind the modifiers. -/
def values? (query : Query) : Option Values :=
  match query.body with
  | .select _ _ _ values => values
  | .ask _ _ values => values
  | .construct _ _ values => values
  | .describe _ _ values => values
  | .update _ => none

/-- The operations of an update request. -/
def operations (query : Query) : List Operation :=
  match query.body with
  | .update operations => operations
  | _ => []

end Query

/-- The number of elements of a group; an inner selection is one. -/
def Group.size : Group → Nat
  | .pattern elements => elements.length
  | .selection _ => 1

/-- The columns as a summary counts them. -/
def Selection.summary (selection : Selection) : List Text :=
  (if selection.duplicates = .distinct then ["DISTINCT".toList] else []) ++
    match selection.projections with
    | .everything => ["*".toList]
    | .listed list => [Text.ofNat list.length ++ " projections".toList]

/-- **A query in one line**: its form, what it selects, how many elements or operations it has, and its
limit. -/
def Query.summary (query : Query) : Text :=
  let parts := [query.form] ++ (query.selection?.map Selection.summary).getD [] ++
    (query.group?.map fun group => "WHERE (".toList ++ Text.ofNat group.size ++ " elements)".toList).toList
    ++ (if query.operations.isEmpty then []
      else [Text.ofNat query.operations.length ++ " operations".toList])
    ++ (query.modifiers.limit.map fun slice => "LIMIT ".toList ++ Text.ofNat slice.value).toList
  "Query(".toList ++ Text.joined [' '] parts ++ [')']

end QuerySignature
