import QuerySignature.Binding.Render
import QuerySignature.Reading.Query

/-!
# Binding/Substitute — filling the slots of a query

`substitute` rewrites the open blocks of a query.  Each takes the first binding set that has rows and covers
its variables; a block that no set covers stays.  The edits are applied from right to left, so that an edit
does not move the place of another, and nothing outside the rewritten blocks changes.
-/

namespace QuerySignature

/-- **A piece of text to be replaced.** -/
structure Edit where
  span : Span
  replacement : Text
  deriving DecidableEq, Repr

/-- The text with the piece replaced. -/
def Edit.apply (edit : Edit) (text : Text) : Text :=
  text.take edit.span.start.toNat ++ edit.replacement ++ text.drop edit.span.stop.toNat

/-- The order in which edits are applied: those further right first. -/
def Edit.isBefore (a b : Edit) : Bool :=
  b.span.start < a.span.start || (b.span.start == a.span.start && b.span.stop ≤ a.span.stop)

/-- The text with every piece replaced, from right to left. -/
def applyEdits (edits : List Edit) (text : Text) : Text :=
  (edits.mergeSort Edit.isBefore).foldl (fun text edit => edit.apply text) text

/-- **The first set that fills a block.** -/
def chosenSet? (sets : List BindingSet) (block : Values) : Option BindingSet :=
  sets.find? fun set => !set.rows.isEmpty && set.covers block.group

/-- The edit of a block, if it is open and a set fills it. -/
def blockEdit? (sets : List BindingSet) (block : Values) : Rendering (Option Edit) := do
  if block.isOpen then
    match chosenSet? sets block with
    | some set => return some ⟨block.span, ← renderBlock block set.rows⟩
    | none => return none
  else return none

/-- **The text of a query with its open blocks filled** from binding sets. -/
def substitute (text : Text) (query : Query) (sets : List BindingSet) : Rendering Text := do
  let edits ← query.blocks.mapM (blockEdit? sets)
  return applyEdits (edits.filterMap id) text

/-- **Why a query is not filled.** -/
inductive FillFailure where
  /-- The text is no query. -/
  | query (failure : Failure)
  /-- The bindings are no document and no list of documents. -/
  | noDocuments
  /-- A binding is not written. -/
  | binding (fault : RenderingFault)

/-- **Fills the slots of a query text** from a bindings value, and gives the warnings in order. -/
def applyBindings (limits : Limits) (text : Text) (bindings : Json) :
    Except FillFailure (Text × List Warning) := do
  let query ← (parse limits text).mapError .query
  let some documents := bindings.documents? | throw .noDocuments
  let loaded := BindingSet.ofDocuments documents
  ((substitute text query (loadedSets loaded)).run (loadedWarnings loaded)).mapError .binding

end QuerySignature
