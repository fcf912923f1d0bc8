import QuerySignature.Proofs.Binding.Documents
import QuerySignature.Proofs.Binding.Splice

/-!
# Proofs/Binding/Alike — what of the bindings matters

Of all that a bindings value holds, filling a text uses only this: for each open block, the first set that fills it
(`BindingSet.FirstFilling`), and of its rows the bindings of the block's variables (`FillAlike`).  Two values that
agree on these give the same text or the same error (`applyBindings_alike`).  So other variables, later sets, sets
that do not fill the block and skipped documents have no effect, whatever they hold.
-/

namespace QuerySignature

/-! ## The bindings of a block -/

/-- **The binding of a variable in a row**, if it has one; a value that stands for nothing is none. -/
def binding? (row : Row) (name : Text) : Option Json :=
  (Json.lookup name row).filter (!·.isEmptyValue)

/-- **The sets of a bindings value**; there are none where it holds no documents. -/
def Json.bindingSets (bindings : Json) : List BindingSet :=
  loadedSets (BindingSet.ofDocuments (bindings.documents?.getD []))

/-- **Two rows bind variables alike**: each has the same binding in both, or none. -/
def BindAlike (vars : List Text) (row row' : Row) : Prop :=
  ∀ name ∈ vars, binding? row name = binding? row' name

/-- **Two lists of sets fill a block alike**: neither fills it, or the first sets that do have as many rows, which bind
its variables alike, row by row. -/
inductive FillAlike (sets sets' : List BindingSet) (block : Values) : Prop where
  | neither : (∀ set ∈ sets, ¬set.Fills block) → (∀ set ∈ sets', ¬set.Fills block) → FillAlike sets sets' block
  | both {set set' : BindingSet} : BindingSet.FirstFilling sets block set → BindingSet.FirstFilling sets' block set' →
      List.Forall₂ (BindAlike block.vars) set.rows set'.rows → FillAlike sets sets' block

variable {sets sets' : List BindingSet} {block : Values} {row row' : Row}

/-! ## One outcome -/

/-- Two lists whose items come to the same, one by one, come to the same. -/
theorem mapM_eq_of_forall₂ {α α' β ε : Type} {write : α → Except ε β} {write' : α' → Except ε β} {list : List α}
    {list' : List α'} (h : List.Forall₂ (fun a a' => write a = write' a') list list') :
    list.mapM write = list'.mapM write' := by
  induction h with
  | nil => rfl
  | cons same _ ih => rw [List.mapM_cons, List.mapM_cons, same, ih]

/-- What a cell comes to depends on the binding alone. -/
theorem renderBinding_binding? (name : Text) :
    renderBinding name (Json.lookup name row) = renderBinding name (binding? row name) := by
  unfold renderBinding binding?
  rw [Option.filter_filter]
  simp only [Bool.and_self]

/-- Rows that bind the variables alike have the same cells. -/
theorem rowCells_alike {vars : List Text} (alike : BindAlike vars row row') :
    rowCells vars row = rowCells vars row' := by
  refine mapM_eq_of_forall₂ (List.forall₂_same.mpr fun name member => ?_)
  rw [renderBinding_binding?, renderBinding_binding?, alike name member]

/-- **A block that is filled alike is written alike.** -/
theorem blockEdit?_alike (alike : block.isOpen = true → FillAlike sets sets' block) :
    (blockEdit? sets block).outcome = (blockEdit? sets' block).outcome := by
  rw [outcome_blockEdit?, outcome_blockEdit?]
  unfold Values.slot?
  cases isOpen : block.isOpen with
  | false => rfl
  | true =>
    rcases alike isOpen with ⟨none_, none_'⟩ | ⟨first, first', rows⟩
    · rw [chosenSet?_eq_none.mpr none_, chosenSet?_eq_none.mpr none_']
    · rw [chosenSet?_eq_some.mpr first, chosenSet?_eq_some.mpr first']
      have cells := mapM_eq_of_forall₂ (rows.imp fun _ _ => rowCells_alike)
      simp only [if_true, Option.map_some, Slot.rendered, renderBlock_outcome, cells]

theorem substitute_outcome_eq (text : Text) (query : Query) (sets : List BindingSet) :
    (substitute text query sets).outcome =
      (query.blocks.mapM fun block => (blockEdit? sets block).outcome).map fun edits =>
        applyEdits (edits.filterMap id) text := by
  unfold substitute
  rw [Rendering.outcome_bind fun _ => .pure _, Rendering.outcome_mapM (steady_blockEdit? sets)]
  cases query.blocks.mapM fun block => (blockEdit? sets block).outcome <;> rfl

/-- **Filling a text comes to what its substitution does**, without the warnings. -/
theorem applyBindings_outcome {limits : Limits} {text : Text} {bindings : Json} {query : Query}
    (parsed : parse limits text = .ok query) (given : bindings.documents?.isSome = true) :
    (applyBindings limits text bindings).map Prod.fst =
      (substitute text query bindings.bindingSets).outcome.mapError .binding := by
  obtain ⟨documents, given⟩ := Option.isSome_iff_exists.mp given
  have steady (sets : List BindingSet) : Rendering.Steady (substitute text query sets) :=
    (Rendering.Steady.mapM (steady_blockEdit? sets) query.blocks).bind fun _ => .pure _
  rw [Json.bindingSets, given, Option.getD_some, ← steady _ (loadedWarnings (BindingSet.ofDocuments documents))]
  unfold applyBindings
  rw [parsed, given]
  dsimp only [Except.mapError, bind, Except.bind]
  cases (substitute text query _).run _ <;> rfl

/-- **Bindings that fill every open block alike give the same text**, or the same error. -/
theorem applyBindings_alike {limits : Limits} {text : Text} {query : Query} {bindings bindings' : Json}
    (parsed : parse limits text = .ok query) (given : bindings.documents?.isSome = bindings'.documents?.isSome)
    (alike : ∀ block ∈ query.blocks, block.isOpen = true →
      FillAlike bindings.bindingSets bindings'.bindingSets block) :
    (applyBindings limits text bindings).map Prod.fst = (applyBindings limits text bindings').map Prod.fst := by
  have edits := mapM_eq_of_forall₂ (List.forall₂_same.mpr fun block member => blockEdit?_alike (alike block member))
  cases some_ : bindings.documents?.isSome with
  | true =>
    rw [applyBindings_outcome parsed some_, applyBindings_outcome parsed (given ▸ some_), substitute_outcome_eq,
      substitute_outcome_eq, edits]
  | false =>
    have none_' := given.symm.trans some_
    unfold applyBindings
    rw [Option.isSome_eq_false_iff, Option.isNone_iff_eq_none] at some_ none_'
    rw [some_, none_']

/-- The unused parts of the second value hold blank nodes: a set without rows and a skipped document, a set that
does not cover the block, another variable of the same row, and a later set. -/
theorem applyBindings_alike_unused :
    let text := "ASK \x7b VALUES ?x \x7b UNDEF \x7d \x7d".toList
    let query : Query := ⟨[], .ask (.pattern [.values ⟨["x".toList], [[.undef]], ⟨6, 25⟩⟩]) .empty none⟩
    let iri := Json.object [("type".toList, .string "uri".toList), ("value".toList, .string "a".toList)]
    let blank := Json.object [("type".toList, .string "bnode".toList)]
    let given (rows : List Row) := Json.object [("arguments".toList, .array (rows.map .object))]
    let bindings := given [[("x".toList, iri)]]
    let others := Json.array [.null, given [], given [[("z".toList, blank)]],
      given [[("x".toList, iri), ("y".toList, blank)]], given [[("x".toList, blank)]]]
    parse .standard text = .ok query ∧ bindings.documents?.isSome = others.documents?.isSome ∧
      (∀ block ∈ query.blocks, block.isOpen = true → FillAlike bindings.bindingSets others.bindingSets block) ∧
      (applyBindings .standard text bindings).map Prod.fst = (applyBindings .standard text others).map Prod.fst := by
  intro text query iri blank given bindings others
  have parsed : parse .standard text = .ok query := rfl
  have alike : ∀ block ∈ query.blocks, block.isOpen = true →
      FillAlike bindings.bindingSets others.bindingSets block := by
    intro block member _
    obtain rfl := List.mem_singleton.mp member
    have first : BindingSet.FirstFilling bindings.bindingSets ⟨["x".toList], [[.undef]], ⟨6, 25⟩⟩
        ⟨["x".toList], [[("x".toList, iri)]]⟩ :=
      chosenSet?_eq_some.mp rfl
    have later : BindingSet.FirstFilling others.bindingSets ⟨["x".toList], [[.undef]], ⟨6, 25⟩⟩
        ⟨["x".toList, "y".toList], [[("x".toList, iri), ("y".toList, blank)]]⟩ :=
      chosenSet?_eq_some.mp rfl
    refine .both first later (.cons (fun name declared => ?_) .nil)
    obtain rfl := List.mem_singleton.mp declared
    rfl
  exact ⟨parsed, rfl, alike, applyBindings_alike parsed rfl alike⟩

end QuerySignature
