import QuerySignature.Proofs.Reading.Terms
import QuerySignature.Proofs.Spaced.Rules

/-!
# Proofs/Spaced/Terms — terms, data, paths and triples between spaces

No path and no verb holds a truth value that is a bare word.  A term and a cell would take one as a literal between
spaces, but where it is a keyword they stop (`Refuses`), so what they come to at other tokens is what they come to between
spaces.
-/

namespace QuerySignature

/-- No list of other symbols holds a closing bracket. -/
theorem NotClosing.isSymbol {symbols : List String} (free : ")".toList ∉ symbols.map String.toList) :
    NotClosing (·.isSymbol symbols) :=
  fun _ closes => Token.isSymbol_apart closes fun _ member => List.mem_singleton.mp member ▸ free

/-- Nor is it an opening one. -/
theorem Tail.not_opening (tail : Tail) : tail.closing.isSymbol ["("] = false :=
  NotClosing.isSymbol (by decide) tail.closes

namespace Reader

variable {tail : Tail} {α β : Type} {g : β → β} {depth : Option Inside}

/-! ## Terms -/

theorem isAtom_of_isTruth {token : Token} (truth : token.isTruth = true) : isAtom token = false := by
  unfold isAtom
  rw [Token.isTruth_kind truth]
  rfl

theorem Blind.isStep : Blind isStep := .or .isResource (.spells (by decide))

theorem Blind.startsVerb : Blind startsVerb :=
  .or (.or (.isKind (by decide) (by decide)) Blind.isStep) (.isSymbol _)

namespace Kept

theorem resource : Kept tail Reader.resource := bind (require .isResource) fun _ => pure

theorem target : Kept tail Reader.target :=
  .orElse (.isKind (by decide) (by decide)) (fun _ => pure) (bind resource fun _ => pure)

theorem signedNumber? : Kept tail Reader.signedNumber? :=
  bind (acceptTwo? (.isSymbol _) .isNumeric (.isSymbol (by decide))) fun
    | some _ => bind valued fun _ => pure
    | none => pure

theorem atom (token : Token) : Kept tail (Reader.atom token) := by
  unfold Reader.atom
  split
  · exact pure
  · split <;> exact pure
  · exact bind valued fun _ => pure
  · exact pure

end Kept

/-- Where a number behind a sign is looked for, a truth value is none. -/
theorem Refuses.signed {M : Option Literal → Reader β} {expected : Expected} (none_ : M none = refuse expected) :
    Refuses (signedNumber? >>= M) := by
  intro token rest left b truth read
  obtain ⟨found, between, signed, further⟩ := bind_done.mp read
  cases found with
  | none =>
    rw [none_] at further
    exact refuse_done.mp further
  | some number =>
    obtain ⟨sign, digits, whole, isSign, -⟩ := (signedNumber?_done signed).1 number rfl
    obtain ⟨rfl, -⟩ := List.cons.inj whole
    exact Bool.eq_false_iff.mp (Blind.isSymbol _ truth).1 isSign

theorem Kept.term : Kept tail Reader.term :=
  .orRefuse (fun _ => isAtom_of_isTruth) (.signed rfl) (fun token => atom token)
    (bind signedNumber? fun
      | some _ => pure
      | none => Keeps.refuse)

/-! ## Data -/

theorem Kept.cell : Kept tail Reader.cell :=
  .orElse (.spells (by decide)) (fun _ => pure) <| .orElse .isResource (fun _ => pure) <|
    .orRefuse (fun _ truth => by rw [Token.isTruth_kind truth]; rfl) (.signed rfl) (fun _ => bind valued fun _ => pure)
      (bind signedNumber? fun
        | some _ => pure
        | none => Keeps.refuse)

theorem Kept.shortRow : Kept tail Reader.shortRow := bind cell fun _ => pure

theorem Kept.longRow (width : Nat) : Kept tail (Reader.longRow width) :=
  bind (symbol _) fun _ => bind (manyUntil .cell (Blind.isSymbol _).same cell) fun row => bind (symbol _) fun _ => by
    split
    · exact pure
    · exact Keeps.stop

theorem Kept.names : Kept tail Reader.names :=
  many (.orElse (.pure nofun)) (.orElse (.isKind (by decide) (by decide)) (fun _ => pure) pure)

theorem Kept.valuesHeader : Kept tail Reader.valuesHeader :=
  .orElse (.isKind (by decide) (by decide)) (fun _ => pure)
    (.ifAccept (.isSymbol _) (bind names fun _ => bind (symbol _) fun _ => pure) Keeps.refuse)

/-- Behind a header, rows are read as it says. -/
theorem Keeps.rows {N : List Text × Reader (List Cell) → Reader β}
    (next : ∀ vars row, Kept tail row → Advances row → Keeps tail g (N (vars, row)) (N (vars, row))) :
    Keeps tail g (valuesHeader >>= N) (valuesHeader >>= N) := by
  intro front calls
  refine .bind (Kept.valuesHeader calls) fun {header _} read => ?_
  obtain ⟨vars, row⟩ := header
  rcases valuesHeader_done read with ⟨_, -, -, -, rfl⟩ | ⟨_, declared, _, -, -, -, -, -, rfl⟩
  · exact next vars _ Kept.shortRow Progress.cell.of_first (calls_behind calls read)
  · exact next vars _ (Kept.longRow _) Progress.require.of_first (calls_behind calls read)

theorem Kept.valuesContent : Kept tail Reader.valuesContent :=
  bind (require (.spells (by decide))) fun _ => .rows fun _ _ row advances =>
    bind (symbol _) fun _ => bind (manyUntil advances (Blind.isSymbol _).same row) fun _ => bind (symbol _) fun _ => pure

theorem Kept.values : Kept tail Reader.values := Kept.valuesContent

theorem Kept.values? : Kept tail Reader.values? :=
  .ifNext (Blind.spells (by decide)).same (bind values fun _ => pure) pure

/-! ## Inside brackets -/

end Reader

/-- The tokens as they are between spaces, and the same groups. -/
def Scanned.apart (scanned : Scanned) : Scanned := ⟨scanned.tokens.map Token.apart, scanned.patterns⟩

namespace Reader

/-- **What can be read inside a bracket** keeps what it comes to. -/
structure InsideKept (tail : Tail) (inner : Inside) : Prop where
  path : Kept tail inner.path
  node : Kept tail inner.node
  advances : Advances inner.node
  properties : Kept tail inner.properties
  brackets : Keeps tail Scanned.apart inner.brackets inner.brackets
  content : Kept tail inner.content

/-- **Wherever a bracket may open**, what can be read inside it keeps what it comes to. -/
def DepthKept (tail : Tail) (depth : Option Inside) : Prop :=
  ∀ inner, depth = some inner → InsideKept tail inner

/-! ## Paths -/

theorem Kept.step : Kept tail Reader.step := require Blind.isStep

theorem Kept.optionalSymbol (symbols : List String) : Kept tail (Reader.optionalSymbol symbols) :=
  bind (accept? (.isSymbol _)) fun _ => pure

theorem Kept.separated {mark : String} {item : Reader (List Token)} (h : Kept tail item) :
    Kept tail (Reader.separated mark item) :=
  bind h fun _ => bind (many (.orElse (.pure nofun)) (.orElse (.isSymbol _) (fun _ => bind h fun _ => pure) pure))
    fun _ => pure

theorem Kept.inverseStep : Kept tail Reader.inverseStep := bind (optionalSymbol _) fun _ => bind step fun _ => pure

theorem Kept.negatedSet : Kept tail (Reader.negatedSet depth) :=
  .ifOpen (fun _ _ _ _ => .orElse (.isSymbol _) (fun _ => bind shift fun _ => pure)
    (bind (separated inverseStep) fun _ => bind (close _) fun _ => pure)) inverseStep

section Depth

variable (hd : DepthKept tail depth)
include hd

theorem Kept.pathPrimary : Kept tail (Reader.pathPrimary depth) :=
  .ifOpen (fun _ inner opens _ => bind (hd inner opens).path fun _ => bind (close _) fun _ => pure)
    (.orElse (.isSymbol _) (fun _ => bind negatedSet fun _ => pure) (bind step fun _ => pure))

theorem Kept.path : Kept tail (Reader.path depth) :=
  separated (separated (bind (optionalSymbol _) fun _ => bind (pathPrimary hd) fun _ =>
    bind (optionalSymbol _) fun _ => pure))

theorem Kept.verb : Kept tail (Reader.verb depth) :=
  .orElse (.isKind (by decide) (by decide)) (fun _ => pure)
    (.ifNext Blind.startsVerb.same (bind (path hd) fun tokens => by split <;> exact pure) Keeps.refuse)

/-! ## Triples -/

theorem Kept.node : Kept tail (Reader.node depth) :=
  bind (acceptTwo? (.isSymbol _) (.isSymbol _) (.isSymbol (by decide))) fun
    | some _ => pure
    | none => .ifOpen (fun _ inner opens _ => bind (hd inner opens).properties fun _ => bind (close _) fun _ => pure)
      (.ifOpen (fun _ inner opens _ => bind
        (manyWhile (hd inner opens).advances (fun token => congrArg (!·) ((Blind.isSymbol _).same token))
          (hd inner opens).node)
        fun _ => bind (close _) fun _ => pure) term)

theorem Kept.objects : Kept tail (Reader.objects depth) :=
  bind (node hd) fun _ => bind (many (.orElse' (.pure nofun)) (.ifAccept (.isSymbol _) (bind (node hd) fun _ => pure) pure))
    fun _ => pure

theorem Kept.property : Kept tail (Reader.property depth) :=
  bind (verb hd) fun _ => bind (objects hd) fun _ => .ifAccept (.isSymbol _)
    (bind (many .accept? (accept? (.isSymbol _))) fun _ => .ifNext Blind.startsVerb.same pure pure) pure

theorem Kept.properties : Kept tail (Reader.properties depth) :=
  bind (loop .property (property hd)) fun _ => pure

theorem Kept.triples : Kept tail (Reader.triples depth) :=
  bind (next (Blind.isSymbol _).same) fun bracket =>
    bind (nextTwo (.isSymbol _) (.isSymbol _) (.isSymbol (by decide))) fun closed =>
      bind (node hd) fun subject => bind (next Blind.startsVerb.same) fun verb => by
        have others : Kept tail (do return Triple.ofSubject subject (← Reader.properties depth)) :=
          bind (properties hd) fun _ => pure
        cases subject <;> cases bracket <;> cases closed <;> cases verb <;> first | exact others | exact pure

end Depth

end Reader

end QuerySignature
