import QuerySignature.Proofs.Orderly.Brackets
import QuerySignature.Proofs.Reading.Values

/-!
# Proofs/Orderly/Terms — terms, triples and inline data

Each reader of terms, paths, triples and inline data is orderly.  A node fits below the ceiling because the
brackets around its parts were open when they were read; the brackets of a path leave nothing behind.
-/

namespace QuerySignature.Reader

variable {S : Token → Prop} {ceiling level : Nat} {depth : Option Inside}

/-! ## Terms -/

/-- One token is taken, and it has no height. -/
theorem resource_orderly : Orderly S ceiling level Anything resource :=
  .require fun _ => .pure fun _ => trivial

/-- One token is taken, whatever it names. -/
theorem iri_orderly : Orderly S ceiling level Anything iri :=
  .require fun _ => .pure fun _ => trivial

/-- One token is taken, whatever its name. -/
theorem variableName_orderly : Orderly S ceiling level Anything variableName :=
  .require fun _ => .pure fun _ => trivial

/-- A variable or a resource is one token. -/
theorem target_orderly : Orderly S ceiling level Anything target :=
  .accept? (fun _ => .pure fun _ => trivial) (.andThen resource_orderly fun _ => .pure fun _ => trivial)

/-- The value of a literal. -/
theorem literal_orderly {sign : Text} {token : Token} (member : S token) (kind : token.kind = .literal) :
    Orderly S ceiling level Anything (valued (Literal.read sign token.text)) :=
  valued_orderly fun _ fault => ⟨token, member, .literal kind fault⟩

/-- The number behind a sign may have no value, and then it is the token of the fault. -/
theorem signedNumber?_orderly : Orderly S ceiling level Anything signedNumber? :=
  .acceptTwo?
    (fun _ number => .andThen (literal_orderly number.1 (kind_of_isNumeric number.2)) fun _ =>
      .pure fun _ => trivial)
    (.pure fun _ => trivial)

/-- The height of a node fits. -/
abbrev NodeFits (ceiling level : Nat) (node : Node) : Prop :=
  Fits ceiling level node.height

/-- An atom has no height, and a literal among them may have no value. -/
theorem atom_orderly {token : Token} (taken : Taken S isAtom token) :
    Orderly S ceiling level (NodeFits ceiling level) (atom token) := by
  unfold atom
  rcases kind_of_isAtom taken.2 with kind | kind | kind | kind <;> rw [kind]
  · exact .pure .zero
  · exact .pure .zero
  · dsimp only
    split
    · exact .pure .zero
    · exact .pure .zero
  · exact .andThen (literal_orderly taken.1 kind) fun _ => .pure .zero

/-- A term is an atom or a signed number. -/
theorem term_orderly : Orderly S ceiling level (NodeFits ceiling level) term :=
  .accept? (fun taken => atom_orderly taken)
    (.andThen signedNumber?_orderly fun
      | some _ => .pure .zero
      | none => refuse_orderly _)

/-! ## Paths -/

/-- A symbol that may be missing opens nothing. -/
theorem optionalSymbol_orderly (symbols : List String) :
    Orderly S ceiling level Anything (optionalSymbol symbols) :=
  .accept? (fun _ => .pure fun _ => trivial) (.pure fun _ => trivial)

/-- Marks between items open nothing. -/
theorem separated_orderly {mark : String} {item : Reader (List Token)}
    (h : Orderly S ceiling level Anything item) : Orderly S ceiling level Anything (separated mark item) :=
  .andThen h fun _ =>
    .andThen
      (many_anything (.accept? (fun _ => .andThen h fun _ => .pure fun _ => trivial) (.pure fun _ => trivial)))
      fun _ => .pure fun _ => trivial

/-- A caret and a step open nothing. -/
theorem inverseStep_orderly : Orderly S ceiling level Anything inverseStep :=
  .andThen (optionalSymbol_orderly _) fun _ => .require fun _ => .pure fun _ => trivial

/-- The bracket of a negated set is closed when the set has been read. -/
theorem negatedSet_orderly (hd : DepthOrderly S ceiling level depth) :
    Orderly S ceiling level Anything (negatedSet depth) :=
  .open? hd (by decide)
    (fun low _ => .accept?
      (fun _ => .andThen (closes_passes low) fun _ => .pure fun _ => trivial)
      (.andThen (separated_orderly inverseStep_orderly) fun _ => .close low fun _ => .pure fun _ => trivial))
    inverseStep_orderly

/-- A bracket in a path is one level, and is closed again. -/
theorem pathPrimary_orderly (hd : DepthOrderly S ceiling level depth) :
    Orderly S ceiling level Anything (pathPrimary depth) :=
  .open? hd (by decide)
    (fun low inner => .andThen inner.path fun _ => .close low fun _ => .pure fun _ => trivial)
    (.accept? (fun _ => .andThen (negatedSet_orderly hd) fun _ => .pure fun _ => trivial)
      (.require fun _ => .pure fun _ => trivial))

/-- A caret and a modifier open nothing. -/
theorem pathElement_orderly (hd : DepthOrderly S ceiling level depth) :
    Orderly S ceiling level Anything (pathElement depth) :=
  .andThen (optionalSymbol_orderly _) fun _ => .andThen (pathPrimary_orderly hd) fun _ =>
    .andThen (optionalSymbol_orderly _) fun _ => .pure fun _ => trivial

/-- **A path leaves no bracket open**, and its height is nothing that a query keeps. -/
theorem path_orderly (hd : DepthOrderly S ceiling level depth) : Orderly S ceiling level Anything (path depth) :=
  separated_orderly (separated_orderly (pathElement_orderly hd))

/-- A verb is a variable, the keyword or a path. -/
theorem verb_orderly (hd : DepthOrderly S ceiling level depth) : Orderly S ceiling level Anything (verb depth) :=
  .accept? (fun _ => .pure fun _ => trivial)
    (.ifNext
      (.andThen (path_orderly hd) fun path => by
        rcases path with _ | ⟨first, _ | ⟨second, others⟩⟩ <;> exact .pure fun _ => trivial)
      (refuse_orderly _))

/-! ## Nodes and triples -/

/-- The heights of objects fit. -/
abbrev PropertiesFit (ceiling level : Nat) (list : List (Verb × Node)) : Prop :=
  ∀ pair ∈ list, Fits ceiling level pair.2.height

/-- A property list in brackets is one level higher than what it lists. -/
theorem fits_properties {list : List (Verb × Node)} (low : level < ceiling)
    (h : PropertiesFit ceiling (level + 1) list) : NodeFits ceiling level (.properties list) :=
  .succ (.all (f := Node.heightOfProperties) (g := fun pair => pair.2.height) rfl (fun _ _ => rfl) low h)

/-- A collection is one level higher than its items. -/
theorem fits_collection {items : List Node} (low : level < ceiling)
    (h : ∀ item ∈ items, NodeFits ceiling (level + 1) item) : NodeFits ceiling level (.collection items) :=
  .succ (.all (f := Node.heightOfItems) rfl (fun _ _ => rfl) low h)

/-- **Nodes are orderly**, and fit. -/
theorem node_orderly (hd : DepthOrderly S ceiling level depth) :
    Orderly S ceiling level (NodeFits ceiling level) (node depth) :=
  .acceptTwo? (fun _ _ => .pure .zero)
    (.open? hd (by decide)
      (fun low inner => .bind inner.properties fun fit => .close low fun _ => .pure fun _ => fits_properties low fit)
      (.open? hd (by decide)
        (fun low inner => .bind (manyWhile_orderly inner.node) fun fit => .close low fun _ =>
          .pure fun _ => fits_collection low fit)
        term_orderly))

/-- Looking ahead takes nothing. -/
theorem startsNode_orderly : Orderly S ceiling level Anything startsNode :=
  .ifNext (.pure fun _ => trivial) nextTwo_orderly

/-- Objects fit where they stand, each by itself. -/
theorem objects_orderly (hd : DepthOrderly S ceiling level depth) :
    Orderly S ceiling level (fun list => ∀ node ∈ list, NodeFits ceiling level node) (objects depth) :=
  .bind (node_orderly hd) fun first =>
    .bind (many_orderly (.ifAccept (node_orderly hd).found (.pure fun _ => trivial))) fun others =>
      .pure fun _ => List.forall_mem_cons.mpr ⟨first, others⟩

/-- A turn of a property list fits if it gives a property at all. -/
theorem property_orderly (hd : DepthOrderly S ceiling level depth) :
    Orderly S ceiling level (Turn.Given (PropertiesFit ceiling level)) (property depth) :=
  .andThen (verb_orderly hd) fun verb => .bind (objects_orderly hd) fun {list} fit => by
    have pairs : PropertiesFit ceiling level (list.map fun object => (verb, object)) :=
      List.forall_mem_map.mpr fit
    exact .ifAccept
      (.andThen (many_orderly accept?_orderly).anything fun _ =>
        .ifNext (.pure fun _ => pairs) (.pure fun _ => pairs))
      (.pure fun _ => pairs)

/-- A property list fits if its verbs and objects do. -/
theorem properties_orderly (hd : DepthOrderly S ceiling level depth) :
    Orderly S ceiling level (PropertiesFit ceiling level) (properties depth) :=
  .bind (loop_orderly (property_orderly hd)) fun lists => .pure fun _ => List.forall_mem_flatten.mpr lists

/-- The heights of triples fit. -/
abbrev TriplesFit (ceiling level : Nat) (list : List Triple) : Prop :=
  ∀ triple ∈ list, Fits ceiling level triple.height

/-- What a property list says of a subject fits if both do. -/
theorem fits_ofSubject {subject : Node} {list : List (Verb × Node)} (h : NodeFits ceiling level subject)
    (h' : PropertiesFit ceiling level list) : TriplesFit ceiling level (Triple.ofSubject subject list) :=
  List.forall_mem_map.mpr fun pair member => h.max (h' pair member)

/-- **Triples fit where they stand**: their subject and their property list do. -/
theorem triples_orderly (hd : DepthOrderly S ceiling level depth) :
    Orderly S ceiling level (TriplesFit ceiling level) (triples depth) :=
  .andThen next_orderly fun bracket => .andThen nextTwo_orderly fun closed =>
    .bind (node_orderly hd) fun {subject} fits => .andThen next_orderly fun verb => by
      have others : Orderly S ceiling level (TriplesFit ceiling level)
          (do return Triple.ofSubject subject (← properties depth)) :=
        .bind (properties_orderly hd) fun fit => .pure fun _ => fits_ofSubject fits fit
      have alone {list : List (Verb × Node)} (h : NodeFits ceiling level (.properties list)) :
          level ≤ ceiling → TriplesFit ceiling level (Triple.ofSubject (.blank none) list) := fun low =>
        fits_ofSubject (.zero low) (h.lower.of_mem fun _ _ => rfl)
      cases subject <;> cases bracket <;> cases closed <;> cases verb <;>
        first | exact others | exact .pure (alone fits)

/-! ## Inline data -/

/-- A cell is one token, or a sign and a number. -/
theorem cell_orderly : Orderly S ceiling level Anything cell :=
  .accept? (fun _ => .pure fun _ => trivial)
    (.accept? (fun _ => .pure fun _ => trivial)
      (.accept?
        (fun taken => .andThen (literal_orderly taken.1 (of_decide_eq_true taken.2)) fun _ => .pure fun _ => trivial)
        (.andThen signedNumber?_orderly fun
          | some _ => .pure fun _ => trivial
          | none => refuse_orderly _)))

/-- A row of a block with one variable is one cell. -/
theorem shortRow_orderly : Orderly S ceiling level Anything shortRow :=
  .andThen cell_orderly fun _ => .pure fun _ => trivial

/-- The bracket of a row is closed behind its cells. -/
theorem longRow_orderly (width : Nat) : Orderly S ceiling level Anything (longRow width) :=
  .symbol fun opening => .bind (manyUntil_orderly cell_orderly) fun _ => .symbol fun _ => by
    split
    · exact .pure fun _ => trivial
    · exact .stop fun _ _ _ => .rowLength _ _ opening

/-- The variables of a header are taken one by one. -/
theorem names_orderly : Orderly S ceiling level Anything names :=
  many_anything (.accept? (fun _ => .pure fun _ => trivial) (.pure fun _ => trivial))

/-- A header says how the rows behind it are read, and rows of either form are orderly. -/
theorem valuesHeader_orderly :
    Orderly S ceiling level (fun header => Orderly S ceiling level Anything header.2) valuesHeader :=
  .accept? (fun _ => .pure fun _ => shortRow_orderly)
    (.ifAccept
      (.andThen names_orderly fun names => .symbol fun _ => .pure fun _ => longRow_orderly names.length)
      (refuse_orderly _))

/-- A block is its header and rows in braces. -/
theorem valuesContent_orderly : Orderly S ceiling level Anything valuesContent :=
  .word fun _ => .bind valuesHeader_orderly fun row => .symbol fun _ =>
    .bind (manyUntil_orderly row) fun _ => .symbol fun _ => .pure fun _ => trivial

/-- A block opens no level of nesting, for its braces hold cells only. -/
theorem values_orderly : Orderly S ceiling level Anything values :=
  asBlock_orderly valuesContent_orderly

/-- A block behind a query may be missing. -/
theorem values?_orderly : Orderly S ceiling level Anything values? :=
  .ifNext (.andThen values_orderly fun _ => .pure fun _ => trivial) (.pure fun _ => trivial)

end QuerySignature.Reader
