import QuerySignature.Proofs.Reading.Expressions
import QuerySignature.Proofs.Spaced.Calls

/-!
# Proofs/Spaced/Expressions — expressions and modifiers between spaces

An expression is the tokens it takes, and so are the pieces it is made of (`Scanned.apart`); its text and its variables
are the same between spaces.  A constraint and a condition may be a function call, so they are read the same where no
truth value is called (`KeptFair`), and so are the clauses around them everywhere.
-/

namespace QuerySignature

/-! ## What is taken -/

namespace Scanned

/-- **The expression of the tokens is the same between spaces.** -/
theorem expression_apart (scanned : Scanned) : scanned.apart.expression = scanned.expression := by
  have kept : (fun token : Token => decide (token.kind = .var)) ∘ Token.apart = fun token => decide (token.kind = .var) :=
    funext (Blind.isKind (by decide) (by decide)).same
  have vars : Token.vars (scanned.tokens.map Token.apart) = Token.vars scanned.tokens := by
    unfold Token.vars
    rw [List.filter_map, kept, List.map_map]
    refine congrArg List.eraseDups (List.map_congr_left fun token _ => ?_)
    exact congrArg (List.drop 1) token.apart_text
  have text : Token.spaced (scanned.tokens.map Token.apart) = Token.spaced scanned.tokens := by
    unfold Token.spaced
    rw [List.map_map]
    exact congrArg (Text.joined [' ']) (List.map_congr_left fun token _ => token.apart_text)
  unfold expression apart
  rw [text, vars]

theorem concat_apart (pieces : List Scanned) : concat (pieces.map apart) = (concat pieces).apart := by
  unfold concat apart
  rw [List.flatMap_map, List.flatMap_map, List.map_flatMap]

end Scanned

theorem NotClosing.spells {words : List String} : NotClosing (·.spells words) := fun _ closes =>
  Reader.not_spells (by rw [Reader.kind_of_isSymbol closes]; decide) words

namespace Reader

variable {tail : Tail} {depth : Option Inside} {named : Bool}

/-! ## Groups and tests -/

theorem Blind.isCloser : Blind isCloser := .isSymbol _

/-- What ends a piece of an expression. -/
theorem Blind.endsExpression (named : Bool) :
    Blind fun token => token.isSymbol [")"] || (named && token.spells ["AS"]) := by
  cases named with
  | true => exact .or (.isSymbol _) (.spells (by decide))
  | false => exact .or (.isSymbol _) fun _ _ => ⟨rfl, rfl⟩

section Depth

variable (hd : DepthKept tail depth)
include hd

theorem Kept.group : Kept tail (Reader.group depth) :=
  bind (symbol _) fun _ => .ifEnter fun inner opens =>
    bind (hd inner opens).content fun _ => bind (close _) fun _ => pure

theorem Keeps.existsTest : Keeps tail Scanned.apart (Reader.existsTest depth) (Reader.existsTest depth) :=
  bind (taking (Kept.bind (.accept (.spells (by decide))) fun _ => Kept.bind (.require (.spells (by decide))) fun _ =>
    Kept.group hd)) fun _ => pure rfl

/-! ## Expressions -/

/-- **A piece of an expression** takes the same tokens. -/
theorem Keeps.piece : Keeps tail Scanned.apart (Reader.piece depth) (Reader.piece depth) := by
  refine either (.nextTwo (.spells (by decide)) (.isSymbol _) .spells) (existsTest hd)
    (ifOpen (fun opening inner opens is => ?_) (map (require fun _ => rfl) fun _ => rfl))
  refine bind (hd inner opens).brackets fun scanned =>
    bind (bind (require Blind.isCloser.same) fun closing => Kept.bind .shift fun _ => pure rfl) fun closing => pure ?_
  have same : opening.apart = opening := (Blind.isSymbol _).apart is
  change _ = Scanned.mk ((opening :: (scanned.tokens ++ [closing])).map Token.apart) _
  rw [List.map_cons, List.map_append, same]
  rfl

theorem Keeps.brackets : Keeps tail Scanned.apart (Reader.brackets depth) (Reader.brackets depth) :=
  map (manyUntil Progress.piece Blind.isCloser.same (piece hd)) Scanned.concat_apart

theorem Keeps.outerPiece :
    Keeps tail (Option.map Scanned.apart) (Reader.outerPiece depth named) (Reader.outerPiece depth named) :=
  ifNext (Blind.endsExpression named).same (pure rfl)
    (ifNext (Blind.isSymbol _).same refuse (map (piece hd) fun _ => rfl))

/-- **An expression is the same.** -/
theorem Kept.expression : Kept tail (Reader.expression depth named) :=
  .map (.many .outerPiece (.outerPiece hd)) fun pieces =>
    (congrArg Scanned.expression (Scanned.concat_apart pieces)).trans (Scanned.expression_apart _)

theorem Kept.someExpression : Kept tail (Reader.someExpression depth named) :=
  bind (expression hd) fun found => by
    split
    · exact Keeps.refuse
    · exact pure

theorem Kept.namedExpression : Kept tail (Reader.namedExpression depth) :=
  bind (someExpression hd) fun _ => bind (require (.spells (by decide))) fun _ =>
    bind (bind (require (.isKind (by decide) (by decide))) fun _ => pure) fun _ => bind (symbol _) fun _ => pure

/-! ## Calls -/

/-- **A function call is the same** where no truth value is called. -/
theorem KeptFair.functionCall : KeptFair tail (Reader.functionCall depth) := by
  intro front calls fair back found read
  obtain ⟨name, between, required, further⟩ := bind_done.mp read
  obtain ⟨whole, -⟩ := require_done.mp required
  obtain ⟨opening, others, opens, -⟩ := bind_done.mp further
  obtain ⟨rfl, is⟩ := require_done.mp opens
  -- a bracket follows the name, so it is no truth value
  have other : ∀ token, front.head? = some token → token.apart = token := by
    intro token first
    refine Token.apart_of_not (Bool.eq_false_iff.mpr fun truth => ?_)
    rcases front with _ | ⟨_, _ | ⟨second, front⟩⟩
    · cases first
    · obtain ⟨-, same⟩ := List.cons.inj whole
      rw [← (List.cons.inj same).1, tail.not_opening] at is
      cases is
    · obtain rfl := Option.some.inj first
      obtain ⟨-, same⟩ := List.cons.inj whole
      rw [← (List.cons.inj same).1] at is
      rw [Fair, List.head?_cons, Option.any_some, truth, List.tail_cons, List.head?_cons, Option.any_some, is] at fair
      cases fair
  refine KeptAt.bind (f := id) (.require fun token first _ => other token first) (fun required => ?_) read
  exact Kept.bind (.symbol _) (fun _ => Kept.bind (.expression hd) fun _ => Kept.bind (.symbol _) fun _ => Kept.pure)
    (calls_behind calls required)

theorem KeptFair.constraint : KeptFair tail (Reader.constraint depth) :=
  .ifAccept (.isSymbol _) (Kept.bind (.someExpression hd) fun _ => Kept.bind (.symbol _) fun _ => Kept.pure)
    (.ifNext (Blind.spells (by decide)).same (Keeps.map (.existsTest hd) Scanned.expression_apart).fair
      (.still .startsCall .nextTwo (Bool.forall_bool.mpr ⟨Keeps.refuse.fair, functionCall hd⟩)))

end Depth

theorem Still.startsConstraint : Still Reader.startsConstraint := .bind .next fun _ => .bind .nextTwo fun _ => .pure

theorem KeptFair.startsConstraint : KeptFair tail Reader.startsConstraint :=
  .still (Kept.next (Blind.or (.isSymbol _) (.spells (by decide))).same).fair .next fun _ =>
    .bind .startsCall fun _ => Kept.pure

section Depth

variable (hd : DepthKept tail depth)
include hd

theorem KeptFair.constraint? : KeptFair tail (Reader.constraint? depth) :=
  .still .startsConstraint .startsConstraint
    (Bool.forall_bool.mpr ⟨Kept.pure.fair, .bind (.constraint hd) fun _ => Kept.pure⟩)

theorem KeptFair.groupCondition? : KeptFair tail (Reader.groupCondition? depth) :=
  .orElse (.isKind (by decide) (by decide)) (fun _ => Kept.pure) <| .ifAccept (.isSymbol _)
    (Kept.bind (.expression hd) fun _ => .ifAccept (.spells (by decide))
      (Kept.bind (.require (.isKind (by decide) (by decide))) fun _ => Kept.bind (.symbol _) fun _ => Kept.pure)
      (Kept.bind (.symbol _) fun _ => Kept.pure))
    (.still .startsCall .nextTwo (Bool.forall_bool.mpr ⟨Kept.pure.fair, .bind (functionCall hd) fun _ => Kept.pure⟩))

theorem KeptFair.orderKey? : KeptFair tail (Reader.orderKey? depth) :=
  .orElse (.spells (by decide)) (fun _ => Kept.bind (.symbol _) fun _ => Kept.bind (.expression hd) fun _ =>
    Kept.bind (.symbol _) fun _ => Kept.pure) <|
    .orElse (.isKind (by decide) (by decide)) (fun _ => Kept.pure)
      (.still .startsConstraint .startsConstraint
        (Bool.forall_bool.mpr ⟨Kept.pure.fair, .bind (.constraint hd) fun _ => Kept.pure⟩))

end Depth

end Reader

end QuerySignature
