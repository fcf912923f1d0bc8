import QuerySignature.Proofs.Labels.Rules
import QuerySignature.Proofs.Reading.Values

/-!
# Proofs/Labels/Terms — labels in terms, triples and inline data

Of the terms only those of triples may be labels: a resource, a target, a cell and the steps of a path are no labels.
So a label that nodes and triples do not leave is a term.
-/

namespace QuerySignature

namespace Probe.Alien

variable {probe : Probe}

/-- A step of a path is no blank label. -/
theorem isStep : probe.Alien Reader.isStep := .or .isResource (.spells _)

/-- **A label starts no verb.** -/
theorem startsVerb : probe.Alien Reader.startsVerb :=
  .or (.or (.isKind (by decide) (by decide)) .isStep) (.isSymbol (by decide))

end Probe.Alien

namespace Reader

variable {probe : Probe} {depth : Option Inside} {β : Type}

/-- **What stands inside a bracket shows the roles of labels.** -/
structure InsideShows (probe : Probe) (inner : Inside) : Prop where
  path : Shows probe inner.path
  node : Shows probe inner.node
  advances : Progress (fun _ => True) inner.node
  properties : Shows probe inner.properties
  brackets : Shows probe inner.brackets
  content : Shows probe inner.content

/-- **Wherever a bracket may open**, what stands inside it shows the roles of labels. -/
abbrev DepthShows (probe : Probe) (depth : Option Inside) : Prop :=
  ∀ inner, depth = some inner → InsideShows probe inner

namespace Shows

open Probe

/-! ## Terms -/

/-- A resource is no blank label. -/
theorem resource : Shows probe Reader.resource := map (require .isResource)

/-- An IRI is no blank label. -/
theorem iri : Shows probe Reader.iri := map (require (.isKind (by decide) (by decide)))

/-- The target of a management operation is no blank label. -/
theorem target : Shows probe Reader.target :=
  orElse (.isKind (by decide) (by decide)) (fun _ => pure) (map resource)

theorem signedNumber? : Shows probe Reader.signedNumber? :=
  bind (acceptTwo? (.isSymbol (by decide)) .isNumeric) fun
    | some _ => bind valued fun _ => pure
    | none => pure

theorem atom (token : Token) : Shows probe (Reader.atom token) := by
  unfold Reader.atom
  split
  · exact pure
  · split <;> exact pure
  · exact bind valued fun _ => pure
  · exact pure

theorem number : Shows probe (do
    match ← Reader.signedNumber? with
    | some number => return Node.literal number
    | none => Reader.refuse .term) :=
  bind signedNumber? fun
    | some _ => pure
    | none => refuse

/-- Behind another token a label is neither accepted nor seen. -/
theorem accept?_behind {p : Token → Bool} (token : Token) (front : List Token) :
    TellsAt probe (fun _ => False) (Reader.accept? p) (token :: front) := by
  intro behind rest found read
  refine .inl ?_
  cases found with
  | none =>
    obtain ⟨rfl, missed⟩ := accept?_none.mp read
    exact ⟨_, rfl, accept?_none.mpr ⟨rfl, missed⟩⟩
  | some accepted =>
    obtain ⟨whole, holds⟩ := accept?_some.mp read
    obtain ⟨rfl, rfl⟩ := List.cons.inj whole
    exact ⟨front, rfl, accept?_some.mpr ⟨rfl, holds⟩⟩

/-- The operator is no atom, so a place that takes the label takes it as a term. -/
theorem not_isAtom_operator (probe : Probe) : isAtom probe.operator = false := by
  rw [isAtom, probe.kind_operator]
  rfl

/-- **A label may be a term**; an operator in its place is none. -/
theorem term : Shows probe Reader.term := by
  intro front
  cases front with
  | cons token front =>
    exact .bind (accept?_behind token front) (fun {found between} _ => by
      cases found with
      | some token => exact atom token between
      | none => exact number between) fun never => never.elim
  | nil =>
    intro behind rest found _
    have missed : (Reader.accept? isAtom).read [probe.operator] = .done none [probe.operator] :=
      accept?_none.mpr ⟨rfl, not_isAtom_operator probe⟩
    right
    rw [List.nil_append, Reader.term, bind_read, missed]
    exact .stops .term [probe.operator]

/-- A cell of a VALUES block is no blank label. -/
theorem cell : Shows probe Reader.cell :=
  orElse (.spells _) (fun _ => pure) <| orElse .isResource (fun _ => pure) <|
    orElse (.isKind (by decide) (by decide)) (fun _ => bind valued fun _ => pure) <| bind signedNumber? fun
      | some _ => pure
      | none => refuse

/-! ## Inline data -/

theorem valuesHeader : Shows probe Reader.valuesHeader :=
  orElse (.isKind (by decide) (by decide)) (fun _ => pure) <| ifAccept (.isSymbol (by decide))
    (bind
      (many (.orElse (.pure nofun)) (orElse (.isKind (by decide) (by decide)) (fun _ => pure) pure))
      fun _ => bind (symbol (by decide)) fun _ => pure)
    refuse

theorem longRow (width : Nat) : Shows probe (Reader.longRow width) :=
  bind (symbol (by decide)) fun _ => bind (manyUntil Progress.cell (.isSymbol (by decide)) cell) fun _ =>
    bind (symbol (by decide)) fun _ => by
      split
      · exact pure
      · exact stop

/-- **No cell is a label.** -/
theorem values : Shows probe Reader.values := by
  have rows {row : Reader (List Cell)} (vars : List Text) (keyword : Token) (advances : Progress (fun _ => True) row)
      (h : Shows probe row) : Shows probe (do
        let _ ← Reader.symbol "\x7b"
        let rows ← Reader.manyUntil (·.isSymbol ["\x7d"]) row
        let closing ← Reader.symbol "\x7d"
        return (⟨vars, rows, ⟨keyword.position.offset, closing.stop⟩⟩ : Values)) :=
    bind (symbol (by decide)) fun _ => bind (manyUntil advances (.isSymbol (by decide)) h) fun _ =>
      bind (symbol (by decide)) fun _ => pure
  have content : Shows probe Reader.valuesContent := by
    refine bind word fun keyword front => .bind (valuesHeader front) (fun {header between} read => ?_) fun never => never.elim
    -- only the two readers of rows come from a header
    obtain ⟨vars, row⟩ := header
    rcases valuesHeader_done read with ⟨-, -, -, -, rfl⟩ | ⟨-, declared, -, -, -, -, -, -, rfl⟩
    · exact rows vars keyword Progress.cell.of_first (map cell) between
    · exact rows vars keyword Progress.require.of_first (longRow _) between
  exact content

theorem values? : Shows probe Reader.values? := ifNext (.spells _) (map values) pure

/-! ## Verbs -/

theorem step : Shows probe Reader.step := require .isStep

theorem optionalSymbol {symbols : List String}
    (apart : ∀ text ∈ ["&&"].map String.toList, text ∉ symbols.map String.toList) :
    Shows probe (Reader.optionalSymbol symbols) :=
  map (accept? (.isSymbol apart))

theorem separated {mark : String} {item : Reader (List Token)}
    (apart : ∀ text ∈ ["&&"].map String.toList, text ∉ [mark].map String.toList) (h : Shows probe item) :
    Shows probe (Reader.separated mark item) :=
  bind h fun _ => bind
    (many (.orElse (.pure nofun)) (orElse (.isSymbol apart) (fun _ => map h) pure)) fun _ => pure

theorem inverseStep : Shows probe Reader.inverseStep :=
  bind (optionalSymbol (by decide)) fun _ => map step

theorem negatedSet : Shows probe (Reader.negatedSet depth) :=
  open? (.isSymbol (by decide))
    (fun _ _ _ => orElse (.isSymbol (by decide)) (fun _ => bind shift fun _ => pure)
      (bind (separated (by decide) inverseStep) fun _ => map (close (by decide))))
    inverseStep

section Depth

variable (hd : DepthShows probe depth)
include hd

theorem pathPrimary : Shows probe (Reader.pathPrimary depth) :=
  open? (.isSymbol (by decide))
    (fun _ _ deeper => bind (hd _ deeper).path fun _ => map (close (by decide)))
    (orElse (.isSymbol (by decide)) (fun _ => map negatedSet) (map step))

theorem path : Shows probe (Reader.path depth) :=
  separated (by decide) (separated (by decide)
    (bind (optionalSymbol (by decide)) fun _ => bind (pathPrimary hd) fun _ => map (optionalSymbol (by decide))))

/-- **No step of a path is a label.** -/
theorem verb : Shows probe (Reader.verb depth) :=
  orElse (.isKind (by decide) (by decide)) (fun _ => pure) <| ifNext .startsVerb
    (bind (path hd) fun _ => by split <;> exact pure)
    refuse

/-! ## Nodes and triples -/

/-- **A node** takes a label as a term. -/
theorem node : Shows probe (Reader.node depth) :=
  have closing : probe.Alien (·.isSymbol [")"]) := .isSymbol (by decide)
  bind (acceptTwo? (.isSymbol (by decide)) (.isSymbol (by decide))) fun
    | some _ => pure
    | none => open? (.isSymbol (by decide))
        (fun _ _ deeper => bind (hd _ deeper).properties fun _ => bind (close (by decide)) fun _ => pure) <|
      open? (.isSymbol (by decide))
        (fun _ _ deeper => bind (manyWhile (hd _ deeper).advances (congrArg Bool.not closing.same) (hd _ deeper).node) fun _ =>
          bind (close (by decide)) fun _ => pure)
        term

theorem objects : Shows probe (Reader.objects depth) :=
  bind (node hd) fun _ => bind (many (.orElse' (.pure nofun)) (ifItem (.isSymbol (by decide)) (node hd))) fun _ => pure

theorem property : Shows probe (Reader.property depth) :=
  bind (verb hd) fun _ => bind (objects hd) fun _ => ifAccept (.isSymbol (by decide))
    (bind (many .accept? (accept? (.isSymbol (by decide)))) fun _ => ifNext .startsVerb pure pure) pure

theorem properties : Shows probe (Reader.properties depth) :=
  map (loop .property (property hd))

theorem triples : Shows probe (Reader.triples depth) := by
  refine bind (next (Alien.isSymbol (by decide)).same) fun _ => bind (nextTwo (.isSymbol (by decide)) (.isSymbol (by decide)))
    fun _ => bind (node hd) fun _ => bind (next Alien.startsVerb.same) fun _ => ?_
  split
  · exact pure
  · exact map (properties hd)

end Depth

end Shows

end Reader

end QuerySignature
