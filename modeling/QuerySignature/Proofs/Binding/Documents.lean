import QuerySignature.Binding.Document

/-!
# Proofs/Binding/Documents — which documents give a set

A document gives a binding set if it is an object with a list of rows (`RowList`) that are objects, and a list of
variables that are strings (`VariableList`); its set is these two, unchanged (`BindingSet.Of`).  Every other document
is skipped, for the first reason that applies (`SkipReason.Applies`).  A list of documents gives a set or a warning
for each of them, in order (`Loads`), so documents that are skipped never change the sets of the others
(`ofDocuments_loads`).
-/

namespace QuerySignature

/-! ## What a document holds -/

namespace Json

/-- **The array of bindings under a key** of a document: that of an object there. -/
def Bindings (document : Json) (key : String) (items : List Json) : Prop :=
  ∃ part, document.get? key.toList = some part ∧ part.get? "bindings".toList = some (.array items)

/-- **The list of rows of a document**: `results.bindings` if that is an array inside an object, else
`arguments.bindings` if that is one, else `arguments` if that is an array. -/
inductive RowList (document : Json) (items : List Json) : Prop where
  | results : document.Bindings "results" items → RowList document items
  | bindings : (∀ others, ¬document.Bindings "results" others) → document.Bindings "arguments" items →
      RowList document items
  | arguments : (∀ others, ¬document.Bindings "results" others) → (∀ others, ¬document.Bindings "arguments" others) →
      document.get? "arguments".toList = some (.array items) → RowList document items

/-- **What a document declares as its variables**: `head.vars`, unless it is null. -/
def Declares (document vars : Json) : Prop :=
  (∃ head, document.get? "head".toList = some head ∧ head.get? "vars".toList = some vars) ∧ vars ≠ .null

/-- **The list of variables of a document** with rows: the strings that it declares.  Where it declares nothing and
the key `arguments` is present, they are the keys of the first row; without rows there are none. -/
inductive VariableList (document : Json) (rows : List Row) : List Text → Prop where
  | declared {vars : List Text} : document.Declares (.array (vars.map .string)) → VariableList document rows vars
  | keys : (∀ vars, ¬document.Declares vars) → (∃ arguments, document.get? "arguments".toList = some arguments) →
      VariableList document rows ((rows.head?.getD []).map Prod.fst)

end Json

/-- **The set of a document**: it is an object, and its rows and variables are those of the set. -/
structure BindingSet.Of (document : Json) (set : BindingSet) : Prop where
  object : ∃ fields, document = .object fields
  rows : document.RowList (set.rows.map .object)
  vars : document.VariableList set.rows set.vars

/-- **The reason applies to a document**, and none in front of it does. -/
inductive SkipReason.Applies (document : Json) : SkipReason → Prop where
  | notObject : (∀ fields, document ≠ .object fields) → Applies document .notObject
  | noRows : (∃ fields, document = .object fields) → (∀ items, ¬document.RowList items) → Applies document .noRows
  | rowNotObject {items : List Json} : (∃ fields, document = .object fields) → document.RowList items →
      (∀ rows : List Row, items ≠ rows.map .object) → Applies document .rowNotObject
  | noVariables {rows : List Row} : (∃ fields, document = .object fields) →
      document.RowList (rows.map .object) → (∀ vars, ¬document.VariableList rows vars) →
      Applies document .noVariables

variable {document : Json} {items : List Json} {rows : List Row} {vars : List Text} {set : BindingSet}

/-! ## Reading the parts -/

/-- A list is read item by item if each item has the form of what it is read as. -/
theorem mapM_eq_some_iff {α β : Type} {read : α → Option β} {form : β → α}
    (h : ∀ a b, read a = some b ↔ a = form b) {list : List α} {found : List β} :
    list.mapM read = some found ↔ list = found.map form := by
  induction list generalizing found with
  | nil => cases found <;> simp
  | cons a list ih => cases found <;> simp [List.mapM_cons, Option.bind_eq_some_iff, h, ih]

theorem fields?_eq_some {value : Json} {fields : Row} : value.fields? = some fields ↔ value = .object fields := by
  cases value <;> simp [Json.fields?]

theorem items?_eq_some {value : Json} : value.items? = some items ↔ value = .array items := by
  cases value <;> simp [Json.items?]

theorem text?_eq_some {value : Json} {text : Text} : value.text? = some text ↔ value = .string text := by
  cases value <;> simp [Json.text?]

namespace BindingSet

theorem bindings_iff {key : String} :
    (document.get? key.toList).bind (itemsUnder "bindings") = some items ↔ document.Bindings key items := by
  simp only [Option.bind_eq_some_iff, itemsUnder, items?_eq_some, Json.Bindings, exists_eq_right]

theorem rowsOf_eq_some : rowsOf document = some items ↔ document.RowList items := by
  have none_ {key : String} : (document.get? key.toList).bind (itemsUnder "bindings") = none ↔
      ∀ others, ¬document.Bindings key others := by
    simp only [Option.eq_none_iff_forall_ne_some, ne_eq, bindings_iff]
  have direct : (document.get? "arguments".toList).bind Json.items? = some items ↔
      document.get? "arguments".toList = some (.array items) := by
    simp only [Option.bind_eq_some_iff, items?_eq_some, exists_eq_right]
  rw [rowsOf, Option.or_eq_some_iff, Option.or_eq_some_iff, Option.or_eq_none_iff, bindings_iff, bindings_iff, none_,
    none_, direct]
  constructor
  · rintro ((results | ⟨noResults, bindings⟩) | ⟨⟨noResults, noBindings⟩, arguments⟩)
    · exact .results results
    · exact .bindings noResults bindings
    · exact .arguments noResults noBindings arguments
  · rintro (results | ⟨noResults, bindings⟩ | ⟨noResults, noBindings, arguments⟩)
    · exact .inl (.inl results)
    · exact .inl (.inr ⟨noResults, bindings⟩)
    · exact .inr ⟨⟨noResults, noBindings⟩, arguments⟩

theorem declares_iff {value : Json} : document.Declares value ↔
    (document.get? "head".toList).bind (·.get? "vars".toList) = some value ∧ value ≠ .null := by
  rw [Json.Declares, Option.bind_eq_some_iff]

/-- The strings of an array. -/
theorem strings_eq_some {value : Json} :
    value.items?.bind (·.mapM Json.text?) = some vars ↔ value = .array (vars.map .string) := by
  simp only [Option.bind_eq_some_iff, items?_eq_some, mapM_eq_some_iff (fun _ _ => text?_eq_some)]
  constructor
  · rintro ⟨items, rfl, rfl⟩
    rfl
  · rintro rfl
    exact ⟨_, rfl, rfl⟩

theorem variablesOf_eq_some :
    ((variablesOf document rows).bind Json.items?).bind (·.mapM Json.text?) = some vars ↔
      document.VariableList rows vars := by
  rw [Option.bind_assoc]
  by_cases declares : ∃ value, document.Declares value
  · obtain ⟨value, declares⟩ := declares
    obtain ⟨found, notNull⟩ := declares_iff.mp declares
    have given : variablesOf document rows = some value := by
      unfold variablesOf
      rw [found]
      cases value <;> first | rfl | exact absurd rfl notNull
    rw [given, Option.bind_some, strings_eq_some]
    constructor
    · rintro rfl
      exact .declared declares
    · rintro (same | ⟨none_, -⟩)
      · exact Option.some.inj (found.symm.trans (declares_iff.mp same).1)
      · exact absurd declares (none_ value)
  · have none_ (value : Json) : ¬document.Declares value := fun h => declares ⟨value, h⟩
    have given : variablesOf document rows =
        if (document.get? "arguments".toList).isSome then
          some (.array (((rows.head?.getD []).map Prod.fst).map .string))
        else none := by
      unfold variablesOf
      rw [List.map_map]
      split
      · rfl
      · rfl
      · next value notNull found => exact absurd (declares_iff.mpr ⟨found, notNull⟩) (none_ value)
    rw [given]
    constructor
    · intro h
      split at h
      · next present =>
        rw [Option.bind_some, strings_eq_some] at h
        obtain rfl := (List.map_inj_right fun _ _ => Json.string.inj).mp (Json.array.inj h)
        exact .keys none_ (Option.isSome_iff_exists.mp present)
      · cases h
    · rintro (declared | ⟨-, present⟩)
      · exact absurd declared (none_ _)
      · rw [if_pos (Option.isSome_iff_exists.mpr present), Option.bind_some, strings_eq_some]

/-- The rows of a document that has a set. -/
theorem mapM_fields?_eq_some : items.mapM Json.fields? = some rows ↔ items = rows.map .object :=
  mapM_eq_some_iff fun _ _ => fields?_eq_some

theorem ofDocument_of (h : Of document set) : ofDocument document = .ok set := by
  obtain ⟨⟨fields, object⟩, rows, vars⟩ := h
  unfold ofDocument
  rw [fields?_eq_some.mpr object, rowsOf_eq_some.mpr rows]
  dsimp only
  rw [mapM_fields?_eq_some.mpr rfl]
  dsimp only
  rw [variablesOf_eq_some.mpr vars]
  rfl

/-- **What comes of a document**: its set, or the reason why it is skipped. -/
theorem ofDocument_cases (document : Json) :
    (∃ set, ofDocument document = .ok set ∧ Of document set) ∨
      ∃ reason, ofDocument document = .error reason ∧ reason.Applies document := by
  unfold ofDocument
  split
  case h_2 notObject =>
    exact .inr ⟨_, rfl, .notObject fun fields same => notObject fields (fields?_eq_some.mpr same)⟩
  next fields object =>
  have object : ∃ fields, document = .object fields := ⟨fields, fields?_eq_some.mp object⟩
  split
  case h_2 noRows => exact .inr ⟨_, rfl, .noRows object fun items list => noRows items (rowsOf_eq_some.mpr list)⟩
  next items list =>
  have list := rowsOf_eq_some.mp list
  split
  case h_2 notObjects =>
    exact .inr ⟨_, rfl, .rowNotObject object list fun rows same => notObjects rows (mapM_fields?_eq_some.mpr same)⟩
  next rows areRows =>
  rw [mapM_fields?_eq_some.mp areRows] at list
  split
  case h_2 noVariables =>
    exact .inr ⟨_, rfl, .noVariables object list fun vars given => noVariables vars (variablesOf_eq_some.mpr given)⟩
  next vars given => exact .inl ⟨⟨vars, rows⟩, rfl, object, list, variablesOf_eq_some.mp given⟩

/-- **A document gives a set if it is the set of the document.** -/
theorem ofDocument_eq_ok : ofDocument document = .ok set ↔ Of document set := by
  refine ⟨fun h => ?_, ofDocument_of⟩
  rcases ofDocument_cases document with ⟨found, gives, of⟩ | ⟨reason, skips, -⟩
  · cases h.symm.trans gives
    exact of
  · cases h.symm.trans skips

end BindingSet

/-! ## Lists of documents -/

/-- **The document gives a set.** -/
def Json.GivesSet (document : Json) : Prop :=
  ∃ set, BindingSet.Of document set

instance : DecidablePred Json.GivesSet := fun document =>
  decidable_of_iff ((BindingSet.ofDocument document).toOption.isSome = true) <| by
    rw [Option.isSome_iff_exists]
    refine exists_congr fun set => ?_
    rw [← BindingSet.ofDocument_eq_ok]
    cases BindingSet.ofDocument document <;> simp [Except.toOption]

/-- **What loading documents from an index on comes to**: for each of them, in order, its set or one warning, which
has its index and the reason why it is skipped. -/
inductive Loads : (index : Nat) → List Json → List BindingSet → List Warning → Prop where
  | nil {index : Nat} : Loads index [] [] []
  | set {index : Nat} {document : Json} {documents : List Json} {set : BindingSet} {sets : List BindingSet}
      {warnings : List Warning} : BindingSet.Of document set → Loads (index + 1) documents sets warnings →
      Loads index (document :: documents) (set :: sets) warnings
  | skipped {index : Nat} {document : Json} {documents : List Json} {reason : SkipReason} {sets : List BindingSet}
      {warnings : List Warning} : ¬document.GivesSet → reason.Applies document →
      Loads (index + 1) documents sets warnings →
      Loads index (document :: documents) sets (.skipped index reason :: warnings)

namespace BindingSet

theorem not_givesSet {reason : SkipReason} (skips : ofDocument document = .error reason) : ¬document.GivesSet := by
  rintro ⟨set, of⟩
  cases skips.symm.trans (ofDocument_of of)

/-- What documents give, from an index on. -/
def ofDocumentsFrom (index : Nat) (documents : List Json) : List (Except Warning BindingSet) :=
  documents.mapIdx fun place document => (ofDocument document).mapError (.skipped (index + place))

theorem ofDocuments_eq (documents : List Json) : ofDocuments documents = ofDocumentsFrom 0 documents := by
  simp [ofDocuments, ofDocumentsFrom]

theorem ofDocumentsFrom_cons (index : Nat) (document : Json) (documents : List Json) :
    ofDocumentsFrom index (document :: documents) =
      (ofDocument document).mapError (.skipped index) :: ofDocumentsFrom (index + 1) documents := by
  simp [ofDocumentsFrom, List.mapIdx_cons, Nat.add_assoc, Nat.add_comm 1]

/-- **Each document is loaded once**, in order. -/
theorem ofDocumentsFrom_loads (index : Nat) (documents : List Json) :
    Loads index documents (loadedSets (ofDocumentsFrom index documents))
      (loadedWarnings (ofDocumentsFrom index documents)) := by
  induction documents generalizing index with
  | nil => exact .nil
  | cons document documents ih =>
    rw [ofDocumentsFrom_cons]
    rcases ofDocument_cases document with ⟨set, gives, of⟩ | ⟨reason, skips, applies⟩
    · rw [gives]
      exact .set of (ih (index + 1))
    · rw [skips]
      exact .skipped (not_givesSet skips) applies (ih (index + 1))

/-- **The sets are those of the documents that give one.** -/
theorem loadedSets_ofDocuments (documents : List Json) :
    loadedSets (ofDocuments documents) =
      (documents.filter (·.GivesSet)).filterMap fun document => (ofDocument document).toOption := by
  rw [ofDocuments_eq]
  suffices all : ∀ index, loadedSets (ofDocumentsFrom index documents) =
      (documents.filter (·.GivesSet)).filterMap fun document => (ofDocument document).toOption from all 0
  induction documents with
  | nil => exact fun _ => rfl
  | cons document documents ih =>
    intro index
    rw [ofDocumentsFrom_cons]
    rcases ofDocument_cases document with ⟨set, gives, of⟩ | ⟨reason, skips, -⟩
    · have some_ : document.GivesSet := ⟨set, of⟩
      rw [List.filter_cons_of_pos (by simpa using some_), List.filterMap_cons, ← ih (index + 1), gives]
      rfl
    · rw [List.filter_cons_of_neg (by simpa using not_givesSet skips), ← ih (index + 1), skips]
      rfl

end BindingSet

/-- **A bindings value lists documents**: it is an array of them, or an object, which is one document. -/
inductive Json.Lists : Json → List Json → Prop where
  | array (documents : List Json) : Lists (.array documents) documents
  | object (fields : Row) : Lists (.object fields) [.object fields]

/-- **Loading a list of documents** never fails: each document gives its set or one warning, in order, and documents
that give none never change the list of sets, however many they are and wherever they stand. -/
theorem ofDocuments_loads {bindings : Json} {documents : List Json} (lists : bindings.Lists documents) :
    bindings.documents? = some documents ∧
      Loads 0 documents (loadedSets (BindingSet.ofDocuments documents))
        (loadedWarnings (BindingSet.ofDocuments documents)) ∧
      ∀ others : List Json, others.filter (·.GivesSet) = documents.filter (·.GivesSet) →
        loadedSets (BindingSet.ofDocuments others) = loadedSets (BindingSet.ofDocuments documents) := by
  refine ⟨?_, ?_, fun others same => ?_⟩
  · cases lists <;> rfl
  · rw [BindingSet.ofDocuments_eq]
    exact BindingSet.ofDocumentsFrom_loads 0 documents
  · rw [BindingSet.loadedSets_ofDocuments, BindingSet.loadedSets_ofDocuments, same]

/-- A document without rows gives a set, and what is no object may stand in front of it or behind it. -/
theorem ofDocuments_loads_skipped :
    let document := Json.object [("arguments".toList, .array [])]
    (Json.array [.null, document]).Lists [.null, document] ∧
      [document, .string [], .null].filter (·.GivesSet) = [.null, document].filter (·.GivesSet) ∧
      Loads 0 [.null, document] [⟨[], []⟩] [.skipped 0 .notObject] ∧
      loadedSets (BindingSet.ofDocuments [document, .string [], .null]) = [⟨[], []⟩] :=
  have loaded := ofDocuments_loads (.array [.null, .object [("arguments".toList, .array [])]])
  ⟨.array _, rfl, loaded.2.1, loaded.2.2 _ rfl⟩

end QuerySignature
