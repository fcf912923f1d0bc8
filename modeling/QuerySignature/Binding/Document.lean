import QuerySignature.Json.Basic

/-!
# Binding/Document — binding documents

A binding document is a JSON object with rows under `results.bindings`, `arguments.bindings` or
`arguments`, and the variables of its rows under `head.vars`; a document with arguments may leave the
variables to the keys of its first row.  `BindingSet.ofDocument` reads one document: it gives a set, or the
reason why the document is skipped.  Documents do not affect each other.
-/

namespace QuerySignature

/-- A row of bindings: a value for each of some variables. -/
abbrev Row := List (Text × Json)

/-- **The variables and rows of one document.** -/
structure BindingSet where
  vars : List Text
  rows : List Row

/-- Why a document is skipped. -/
inductive SkipReason where
  | notObject
  | noRows
  | rowNotObject
  | noVariables
  deriving DecidableEq, Repr

/-- **A warning**: the value it is about stands for nothing.  A binding and a type are kept as the warning
shows them. -/
inductive Warning where
  | skipped (index : Nat) (reason : SkipReason)
  | noValue (name : Text)
  | unsupportedBinding (name binding : Text)
  | unsupportedType (type name : Text)

/-- The wording of a reason. -/
def SkipReason.described : SkipReason → Text
  | notObject => "not a JSON object".toList
  | noRows => "no results.bindings or arguments".toList
  | rowNotObject => "rows must be JSON objects".toList
  | noVariables => "head.vars missing or invalid".toList

/-- **The wording of a warning.** -/
def Warning.message : Warning → Text
  | skipped index reason =>
    "Skipping binding document ".toList ++ Text.ofNat index ++ ": ".toList ++ reason.described
  | noValue name => "Binding for variable ".toList ++ name ++ " has no value".toList
  | unsupportedBinding name binding =>
    "Unsupported binding for variable ".toList ++ name ++ ": ".toList ++ binding
  | unsupportedType type name =>
    "Unsupported binding type in VALUES: ".toList ++ type ++ " for variable ".toList ++ name

namespace BindingSet

/-- The set has each of the variables. -/
def covers (set : BindingSet) (group : List Text) : Bool :=
  group.all set.vars.contains

/-- The items of the array under a key. -/
def itemsUnder (key : String) (value : Json) : Option (List Json) :=
  (value.get? key.toList).bind Json.items?

/-- **The rows of a document.** -/
def rowsOf (document : Json) : Option (List Json) :=
  let arguments := document.get? "arguments".toList
  (((document.get? "results".toList).bind (itemsUnder "bindings")).or
    (arguments.bind (itemsUnder "bindings"))).or (arguments.bind Json.items?)

/-- What a document gives as its variables: `head.vars`, unless it is missing or null and there are
arguments; then the keys of the first row. -/
def variablesOf (document : Json) (rows : List Row) : Option Json :=
  match (document.get? "head".toList).bind (·.get? "vars".toList) with
  | some .null | none =>
    if (document.get? "arguments".toList).isSome then
      some (.array ((rows.head?.getD []).map fun member => .string member.1))
    else none
  | some vars => some vars

/-- **The set of a document**, or why it is skipped. -/
def ofDocument (document : Json) : Except SkipReason BindingSet := do
  let some _ := document.fields? | throw .notObject
  let some rows := rowsOf document | throw .noRows
  let some rows := rows.mapM Json.fields? | throw .rowNotObject
  let some vars := ((variablesOf document rows).bind Json.items?).bind (·.mapM Json.text?)
    | throw .noVariables
  return ⟨vars, rows⟩

/-- The set of each document, or the warning that it is skipped, in order. -/
def ofDocuments (documents : List Json) : List (Except Warning BindingSet) :=
  documents.mapIdx fun index document => (ofDocument document).mapError (.skipped index)

end BindingSet

/-- **The documents of a bindings value**: an object is one document, an array is a list of them, the
characters of a string are documents too (none of which is an object), and nothing else holds any. -/
def Json.documents? : Json → Option (List Json)
  | .object fields => some [.object fields]
  | .array items => some items
  | .string text => some (text.map fun c => .string [c])
  | _ => none

/-- The sets among what documents give. -/
def loadedSets (loaded : List (Except Warning BindingSet)) : List BindingSet :=
  loaded.filterMap Except.toOption

/-- The warnings among what documents give. -/
def loadedWarnings (loaded : List (Except Warning BindingSet)) : List Warning :=
  loaded.filterMap fun
    | .error warning => some warning
    | .ok _ => none

end QuerySignature
